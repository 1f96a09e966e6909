import TransportBridge.Message
import Mathlib.Order.Bounds.Defs
import Mathlib.Tactic.SplitIfs

/-!
Contract: what the bridge makes of a message's bytes.

Bytes that spell a text in shortest form are read as that text and as no other.
All other bytes are refused, and the offset that is told is the length of the
longest part at their front that does spell a text: where a character is cut
short or malformed, reading stops before it and not within.

Owns: the spelling of one character against each of the four forms that are
read, the split of bytes into characters and a rest that begins with none, and
messages and error triples read by it.

Does not own: where the bridge reads messages, and what becomes of a record.
-/

namespace TransportBridge

namespace Utf8

/-! ## One character -/

section Spelling

variable {a b c d : UInt8} {spelled : Char}

private theorem byte_eq_iff {number : Nat} (small : number < 0x100) :
    UInt8.ofNat number = a ↔ a.toNat = number := by
  rw [← UInt8.toNat_inj, UInt8.toNat_ofNat_of_lt' small, eq_comm]

private theorem ofNat_eq_iff {number : Nat} (valid : number.isValidChar) :
    Char.ofNat number = spelled ↔ spelled.toNat = number := by
  constructor
  · rintro rfl
    rw [Char.ofNat, dif_pos valid]
    rfl
  · rintro rfl
    exact Char.ofNat_toNat spelled

theorem encodeChar_one : String.utf8EncodeChar spelled = [a] ↔
    spelled.toNat ≤ 0x7f ∧ a.toNat = spelled.toNat := by
  simp only [String.utf8EncodeChar, Char.toNat_val]
  split_ifs with one two three
  · rw [List.singleton_inj, byte_eq_iff (by omega)]
    omega
  all_goals simp; omega

theorem encodeChar_two : String.utf8EncodeChar spelled = [a, b] ↔
    (0x80 ≤ spelled.toNat ∧ spelled.toNat ≤ 0x7ff) ∧
      a.toNat = spelled.toNat / 64 + 0xc0 ∧ b.toNat = spelled.toNat % 64 + 0x80 := by
  simp only [String.utf8EncodeChar, Char.toNat_val]
  split_ifs with one two three
  · simp; omega
  · simp only [List.cons.injEq, and_true]
    rw [byte_eq_iff (by omega), byte_eq_iff (by omega)]
    omega
  all_goals simp; omega

theorem encodeChar_three : String.utf8EncodeChar spelled = [a, b, c] ↔
    (0x800 ≤ spelled.toNat ∧ spelled.toNat ≤ 0xffff) ∧
      a.toNat = spelled.toNat / 4096 + 0xe0 ∧ b.toNat = spelled.toNat / 64 % 64 + 0x80 ∧
        c.toNat = spelled.toNat % 64 + 0x80 := by
  simp only [String.utf8EncodeChar, Char.toNat_val]
  split_ifs with one two three
  · simp; omega
  · simp; omega
  · simp only [List.cons.injEq, and_true]
    rw [byte_eq_iff (by omega), byte_eq_iff (by omega), byte_eq_iff (by omega)]
    omega
  · simp; omega

theorem encodeChar_four : String.utf8EncodeChar spelled = [a, b, c, d] ↔
    0x10000 ≤ spelled.toNat ∧
      a.toNat = spelled.toNat / 262144 + 0xf0 ∧ b.toNat = spelled.toNat / 4096 % 64 + 0x80 ∧
        c.toNat = spelled.toNat / 64 % 64 + 0x80 ∧ d.toNat = spelled.toNat % 64 + 0x80 := by
  have valid : spelled.toNat < 0x110000 :=
    spelled.valid.elim (fun small => Nat.lt_trans small (by decide)) (·.2)
  simp only [String.utf8EncodeChar, Char.toNat_val]
  split_ifs with one two three
  · simp; omega
  · simp; omega
  · simp; omega
  · simp only [List.cons.injEq, and_true]
    rw [byte_eq_iff (by omega), byte_eq_iff (by omega), byte_eq_iff (by omega),
      byte_eq_iff (by omega)]
    omega

/-- No character has another shape. -/
theorem encodeChar_shape (spelled : Char) : (∃ a, String.utf8EncodeChar spelled = [a]) ∨
    (∃ a b, String.utf8EncodeChar spelled = [a, b]) ∨
      (∃ a b c, String.utf8EncodeChar spelled = [a, b, c]) ∨
        ∃ a b c d, String.utf8EncodeChar spelled = [a, b, c, d] := by
  simp only [String.utf8EncodeChar]
  split_ifs <;> simp

theorem oneByte_eq_some : a < 0x80 ∧ Char.ofNat a.toNat = spelled ↔
    String.utf8EncodeChar spelled = [a] := by
  rw [encodeChar_one, UInt8.lt_iff_toNat_lt]
  constructor
  · rintro ⟨small, made⟩
    have number := (ofNat_eq_iff (Or.inl (by simp at small; omega))).mp made
    simp at small
    omega
  · rintro ⟨small, number⟩
    exact ⟨by simp; omega, (ofNat_eq_iff (Or.inl (by omega))).mpr number.symm⟩

theorem twoBytes?_eq_some : twoBytes? a b = some spelled ↔
    String.utf8EncodeChar spelled = [a, b] := by
  rw [encodeChar_two, twoBytes?, Option.ite_none_right_eq_some, Option.some_inj]
  simp only [isContinuation, low, Bool.and_eq_true, decide_eq_true_eq, UInt8.le_iff_toNat_le,
    UInt8.lt_iff_toNat_lt, UInt8.toNat_ofNat]
  constructor
  · rintro ⟨range, made⟩
    have number := (ofNat_eq_iff (Or.inl (by omega))).mp made
    omega
  · rintro ⟨range, lead, last⟩
    exact ⟨by omega, (ofNat_eq_iff (Or.inl (by omega))).mpr (by omega)⟩

theorem threeBytes?_eq_some : threeBytes? a b c = some spelled ↔
    String.utf8EncodeChar spelled = [a, b, c] := by
  have range : (0xe0 ≤ a && a ≤ 0xef &&
        (if a = 0xe0 then 0xa0 ≤ b && b < 0xc0
          else if a = 0xed then 0x80 ≤ b && b < 0xa0
          else isContinuation b) && isContinuation c) = true ↔
      (0xe0 ≤ a.toNat ∧ a.toNat ≤ 0xef) ∧ (0x80 ≤ b.toNat ∧ b.toNat < 0xc0) ∧
        (a.toNat = 0xe0 → 0xa0 ≤ b.toNat) ∧ (a.toNat = 0xed → b.toNat < 0xa0) ∧
          0x80 ≤ c.toNat ∧ c.toNat < 0xc0 := by
    simp only [isContinuation, ← UInt8.toNat_inj, Bool.and_eq_true, decide_eq_true_eq,
      UInt8.le_iff_toNat_le, UInt8.lt_iff_toNat_lt, UInt8.toNat_ofNat]
    split_ifs <;> simp only [Bool.and_eq_true, decide_eq_true_eq] <;> omega
  rw [encodeChar_three, threeBytes?, Option.ite_none_right_eq_some, Option.some_inj, range]
  simp only [low]
  constructor
  · rintro ⟨range, made⟩
    have number := (ofNat_eq_iff (by unfold Nat.isValidChar; omega)).mp made
    omega
  · rintro ⟨range, lead, middle, last⟩
    have valid : spelled.toNat.isValidChar := spelled.valid
    unfold Nat.isValidChar at valid
    exact ⟨by omega, (ofNat_eq_iff (by unfold Nat.isValidChar; omega)).mpr (by omega)⟩

theorem fourBytes?_eq_some : fourBytes? a b c d = some spelled ↔
    String.utf8EncodeChar spelled = [a, b, c, d] := by
  have range : (0xf0 ≤ a && a ≤ 0xf4 &&
        (if a = 0xf0 then 0x90 ≤ b && b < 0xc0
          else if a = 0xf4 then 0x80 ≤ b && b < 0x90
          else isContinuation b) && isContinuation c && isContinuation d) = true ↔
      (0xf0 ≤ a.toNat ∧ a.toNat ≤ 0xf4) ∧ (0x80 ≤ b.toNat ∧ b.toNat < 0xc0) ∧
        (a.toNat = 0xf0 → 0x90 ≤ b.toNat) ∧ (a.toNat = 0xf4 → b.toNat < 0x90) ∧
          (0x80 ≤ c.toNat ∧ c.toNat < 0xc0) ∧ 0x80 ≤ d.toNat ∧ d.toNat < 0xc0 := by
    simp only [isContinuation, ← UInt8.toNat_inj, Bool.and_eq_true, decide_eq_true_eq,
      UInt8.le_iff_toNat_le, UInt8.lt_iff_toNat_lt, UInt8.toNat_ofNat]
    split_ifs <;> simp only [Bool.and_eq_true, decide_eq_true_eq] <;> omega
  rw [encodeChar_four, fourBytes?, Option.ite_none_right_eq_some, Option.some_inj, range]
  simp only [low]
  constructor
  · rintro ⟨range, made⟩
    have number := (ofNat_eq_iff (by unfold Nat.isValidChar; omega)).mp made
    omega
  · rintro ⟨range, lead, second, third, last⟩
    have valid : spelled.toNat.isValidChar := spelled.valid
    unfold Nat.isValidChar at valid
    exact ⟨by omega, (ofNat_eq_iff (by unfold Nat.isValidChar; omega)).mpr (by omega)⟩

end Spelling

/-! ## Many characters -/

@[simp] theorem encode_nil : encode [] = [] := rfl

@[simp] theorem encode_cons (first : Char) (characters : List Char) :
    encode (first :: characters) = String.utf8EncodeChar first ++ encode characters := rfl

/-- No character's spelling begins another's, so the first character of bytes
that begin with one is settled. -/
theorem encodeChar_append_inj {first second : Char} {left right : Bytes}
    (same : String.utf8EncodeChar first ++ left = String.utf8EncodeChar second ++ right) :
    first = second ∧ left = right := by
  -- Reading off one character settles it, and spares a comparison of the four shapes by pairs.
  have read := congrArg (fun bytes => bytes.toByteArray.utf8DecodeChar? 0) same
  simp only [List.toByteArray_append, ByteArray.utf8DecodeChar?_utf8EncodeChar_append,
    Option.some_inj] at read
  subst read
  exact ⟨rfl, List.append_cancel_left same⟩

/-- The bytes begin with no character. -/
def Stuck (bytes : Bytes) : Prop :=
  ∀ first rest, bytes ≠ String.utf8EncodeChar first ++ rest

theorem stuck_nil : Stuck [] := by
  intro first rest same
  exact String.utf8EncodeChar_ne_nil (List.append_eq_nil_iff.mp same.symm).1

/-- Bytes begin with no character when neither the first, the first two, the
first three nor the first four are one. -/
theorem stuck_of {a : UInt8} {rest : Bytes} (high : ¬ a < 0x80)
    (two : ∀ b more, rest = b :: more → twoBytes? a b = none)
    (three : ∀ b c more, rest = b :: c :: more → threeBytes? a b c = none)
    (four : ∀ b c d more, rest = b :: c :: d :: more → fourBytes? a b c d = none) :
    Stuck (a :: rest) := by
  intro first more same
  rcases encodeChar_shape first with ⟨w, spelling⟩ | ⟨w, x, spelling⟩ | ⟨w, x, y, spelling⟩ |
      ⟨w, x, y, z, spelling⟩
  all_goals
    rw [spelling] at same
    injection same with lead same
    subst lead
  · exact high (oneByte_eq_some.mpr spelling).1
  · rw [← twoBytes?_eq_some, two x more same] at spelling
    cases spelling
  · rw [← threeBytes?_eq_some, three x y more same] at spelling
    cases spelling
  · rw [← fourBytes?_eq_some, four x y z more same] at spelling
    cases spelling

/-- What reading on comes to: the bytes are characters and a rest that begins
with none. Without a rest all characters are read, else the count of the bytes
before it is told. -/
def ReadsTo (offset : Nat) (read : List Char) (bytes : Bytes)
    (outcome : Except Nat (List Char)) : Prop :=
  ∃ front rest, bytes = encode front ++ rest ∧ Stuck rest ∧
    outcome = if rest = [] then .ok (read.reverse ++ front)
      else .error (offset + (encode front).length)

namespace ReadsTo

variable {offset : Nat} {read : List Char} {bytes : Bytes} {outcome : Except Nat (List Char)}

theorem ended : ReadsTo offset read [] (.ok read.reverse) :=
  ⟨[], [], rfl, stuck_nil, by simp⟩

theorem stopped {a : UInt8} (stuck : Stuck (a :: bytes)) :
    ReadsTo offset read (a :: bytes) (.error offset) :=
  ⟨[], a :: bytes, rfl, stuck, by simp⟩

theorem next {first : Char} {spelling : Bytes} (spelled : String.utf8EncodeChar first = spelling)
    (onward : ReadsTo (offset + spelling.length) (first :: read) bytes outcome) :
    ReadsTo offset read (spelling ++ bytes) outcome := by
  subst spelled
  obtain ⟨front, rest, parts, stuck, told⟩ := onward
  refine ⟨first :: front, rest, by simp [parts], stuck, told.trans ?_⟩
  simp [Nat.add_assoc]

end ReadsTo

theorem decodeFrom_readsTo (offset : Nat) (read : List Char) (bytes : Bytes) :
    ReadsTo offset read bytes (decodeFrom offset read bytes) := by
  fun_induction decodeFrom offset read bytes with
  | case1 offset read => exact .ended
  | case2 offset read a afterFirst small onward =>
    exact .next (oneByte_eq_some.mp ⟨small, rfl⟩) onward
  | case3 offset read a high =>
    exact .stopped (stuck_of high (by simp) (by simp) (by simp))
  | case4 offset read a high b afterSecond first two onward =>
    exact .next (twoBytes?_eq_some.mp two) onward
  | case5 offset read a high b two =>
    exact .stopped (stuck_of high (by simp [two]) (by simp) (by simp))
  | case6 offset read a high b two c afterThird first three onward =>
    exact .next (threeBytes?_eq_some.mp three) onward
  | case7 offset read a high b two c three =>
    exact .stopped (stuck_of high (by simp [two]) (by rintro _ _ _ ⟨⟩; exact three) (by simp))
  | case8 offset read a high b two c three d afterFourth first four onward =>
    exact .next (fourBytes?_eq_some.mp four) onward
  | case9 offset read a high b two c three d afterFourth four =>
    exact .stopped (stuck_of high (by simp [two]) (by rintro _ _ _ ⟨⟩; exact three)
      (by rintro _ _ _ _ ⟨⟩; exact four))

/-- Characters that bytes begin with go no further than those before a rest
that begins with none. -/
theorem prefix_of_stuck {front other : List Char} {rest more : Bytes} (stuck : Stuck rest)
    (same : encode front ++ rest = encode other ++ more) : other <+: front := by
  induction other generalizing front with
  | nil => exact List.nil_prefix
  | cons first other further =>
    cases front with
    | nil => exact absurd (by simpa using same) (stuck first (encode other ++ more))
    | cons lead front =>
      simp only [encode_cons, List.append_assoc] at same
      obtain ⟨rfl, behind⟩ := encodeChar_append_inj same
      exact (List.prefix_cons_inj lead).mpr (further behind)

theorem encode_length_le {other front : List Char} (begins : other <+: front) :
    (encode other).length ≤ (encode front).length := by
  obtain ⟨more, rfl⟩ := begins
  simp [encode]

theorem encode_inj {left right : List Char} (same : encode left = encode right) : left = right := by
  have whole : encode left ++ [] = encode right ++ [] := congrArg (· ++ []) same
  have onward := prefix_of_stuck stuck_nil whole
  exact (prefix_of_stuck stuck_nil whole.symm).eq_of_length_le onward.length_le

theorem decode_eq_ok {bytes : Bytes} {characters : List Char} :
    decode bytes = .ok characters ↔ bytes = encode characters := by
  obtain ⟨front, rest, parts, stuck, told⟩ := decodeFrom_readsTo 0 [] bytes
  rw [decode, told]
  constructor
  · intro read
    split at read
    case isTrue whole =>
      injection read with read
      rw [parts, whole, ← read]
      simp
    case isFalse => cases read
  · intro spelled
    have read : encode front ++ rest = encode characters ++ [] := by
      rw [← parts, spelled, List.append_nil]
    have shorter := encode_length_le (prefix_of_stuck stuck read)
    have whole : rest = [] := by
      have total := congrArg List.length parts
      rw [spelled, List.length_append] at total
      exact List.length_eq_zero_iff.mp (by omega)
    subst whole
    rw [if_pos rfl, encode_inj (List.append_cancel_right read)]
    rfl

/-- The bytes are the shortest spelling of some characters. -/
def WellFormed (bytes : Bytes) : Prop :=
  ∃ characters, bytes = encode characters

/-- Where reading stops, the longest well-formed part at the front ends. -/
theorem decode_error {bytes : Bytes} {offset : Nat} (stopped : decode bytes = .error offset) :
    IsGreatest {length | length ≤ bytes.length ∧ WellFormed (bytes.take length)} offset := by
  obtain ⟨front, rest, parts, stuck, told⟩ := decodeFrom_readsTo 0 [] bytes
  rw [decode, told] at stopped
  split at stopped
  case isTrue => cases stopped
  case isFalse =>
    injection stopped with ends
    rw [Nat.zero_add] at ends
    subst ends
    constructor
    · exact ⟨by simp [parts], front, by simp [parts]⟩
    · rintro length ⟨within, other, spelled⟩
      have split : encode front ++ rest = encode other ++ bytes.drop length := by
        rw [← parts, ← spelled, List.take_append_drop]
      rw [← List.length_take_of_le within, spelled]
      exact encode_length_le (prefix_of_stuck stuck split)

end Utf8

/-! ## Messages -/

/-- A text's bytes are those that it is held in. -/
theorem messageBytes_eq_toUTF8 (text : String) : messageBytes text = text.toUTF8.data.toList := by
  rw [messageBytes, Utf8.encode, String.toUTF8_eq_toByteArray, ← String.utf8Encode_toList]
  simp [List.utf8Encode]

theorem wellFormed_iff {bytes : Bytes} : Utf8.WellFormed bytes ↔ ∃ text, bytes = messageBytes text :=
  ⟨fun ⟨characters, spelled⟩ => ⟨String.ofList characters, by simpa [messageBytes] using spelled⟩,
    fun ⟨text, spelled⟩ => ⟨text.toList, spelled⟩⟩

theorem decodeMessage_eq_ok {bytes : Bytes} {text : String} :
    decodeMessage bytes = .ok text ↔ bytes = messageBytes text := by
  rw [messageBytes, ← Utf8.decode_eq_ok, decodeMessage]
  split
  case h_1 characters read =>
    rw [read, Except.ok.injEq, Except.ok.injEq, ← String.toList_inj, String.toList_ofList]
  case h_2 offset read => simp [read]

theorem decodeMessage_of_malformed {bytes : Bytes} (malformed : ¬ Utf8.WellFormed bytes) :
    ∃ offset, decodeMessage bytes = .error (.transcoding (.malformed offset bytes.length)) ∧
      IsGreatest {length | length ≤ bytes.length ∧ Utf8.WellFormed (bytes.take length)} offset := by
  rw [decodeMessage]
  split
  case h_1 characters read => exact absurd ⟨characters, Utf8.decode_eq_ok.mp read⟩ malformed
  case h_2 offset read => exact ⟨offset, rfl, Utf8.decode_error read⟩

/-- A record whose message is spelled by a text crosses over with that text. -/
theorem translate_messageBytes (domain code : Int) (text : String) :
    translate domain code (messageBytes text) = (⟨.ofRaw domain, code, text⟩, none) := by
  rw [translate, decodeOrPlaceholder, decodeMessage_eq_ok.mpr rfl]

theorem translate_of_malformed {bytes : Bytes} (domain code : Int)
    (malformed : ¬ Utf8.WellFormed bytes) : ∃ error, decodeMessage bytes = .error error ∧
      translate domain code bytes =
        (⟨.ofRaw domain, code, undecodablePlaceholder⟩, some (.placeholderUsed error)) := by
  obtain ⟨offset, refused, -⟩ := decodeMessage_of_malformed malformed
  exact ⟨_, refused, by rw [translate, decodeOrPlaceholder, refused]⟩

/-- Decoding is exact. Bytes are read as a text where they are its shortest
spelling, and are refused otherwise, with the length of the longest well-formed
part at their front and their own. The translated record has the domain and the
code of the triple and the text that its bytes spell, and only where they spell
none the placeholder, with one warning. -/
theorem decoding_exact (bytes : Bytes) :
    (∀ text, decodeMessage bytes = .ok text ↔ bytes = messageBytes text) ∧
    ((¬ ∃ text, bytes = messageBytes text) → ∃ offset,
      decodeMessage bytes = .error (.transcoding (.malformed offset bytes.length)) ∧
      IsGreatest {length | length ≤ bytes.length ∧ ∃ text, bytes.take length = messageBytes text}
        offset) ∧
    ∀ domain code,
      (translate domain code bytes).1.domain.raw = domain ∧
      (translate domain code bytes).1.code = code ∧
      (∀ text, bytes = messageBytes text →
        (translate domain code bytes).1.message = text ∧ (translate domain code bytes).2 = none) ∧
      ((¬ ∃ text, bytes = messageBytes text) →
        (translate domain code bytes).1.message = undecodablePlaceholder ∧
        ∃ error, decodeMessage bytes = .error error ∧
          (translate domain code bytes).2 = some (.placeholderUsed error) ∧
          (Notice.placeholderUsed error).level = .warn) := by
  refine ⟨fun text => decodeMessage_eq_ok, fun unspelled => ?_, fun domain code =>
    ⟨ErrorDomain.raw_ofRaw domain, rfl, ?_, fun unspelled => ?_⟩⟩
  · simp only [← wellFormed_iff] at unspelled ⊢
    exact decodeMessage_of_malformed unspelled
  · rintro text rfl
    rw [translate_messageBytes]
    exact ⟨rfl, rfl⟩
  · obtain ⟨error, refused, translated⟩ :=
      translate_of_malformed domain code (mt wellFormed_iff.mp unspelled)
    rw [translated]
    exact ⟨rfl, error, refused, rfl, rfl⟩

/-- Half of a surrogate pair is no character, and reading stops before it. -/
example : decodeMessage [0x61, 0xed, 0xa0, 0x80] = .error (.transcoding (.malformed 1 4)) := by
  rfl

end TransportBridge
