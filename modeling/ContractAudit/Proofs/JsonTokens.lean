import ContractAudit.Json.Reader
import ContractAudit.Json.Writer
import Mathlib.Data.List.Basic
import Mathlib.Data.List.TakeWhile
import Mathlib.Tactic.SplitIfs

/-!
# Tokens of JSON

A string that was written is read back character by character, whatever it holds: every character is written as one code
unit. An integer is read back from its digits, provided that what follows does not go on like a number.
-/

namespace ContractAudit.Json

/-! ## Strings -/

theorem hexValue?_hexDigit {n : Nat} (h : n < 16) : hexValue? (Text.hexDigit n) = some n := by
  revert n
  decide

theorem stringUnits?_letter {letter c : Char} (h : escaped? letter = some c) (rest : List Char) :
    stringUnits? ('\\' :: letter :: rest) = (stringUnits? rest).map fun found ↦ (c.toNat :: found.1, found.2) := by
  have hletter : letter ≠ 'u' := by
    rintro rfl
    cases h
  rw [stringUnits?.eq_4 letter rest (fun _ _ _ _ _ hu _ ↦ hletter hu), h]
  cases stringUnits? rest <;> rfl

theorem stringUnits?_hex {n : Nat} (h : n < 65536) (rest : List Char) :
    stringUnits? ('\\' :: 'u' :: (Text.hex 4 n ++ rest)) =
      (stringUnits? rest).map fun found ↦ (n :: found.1, found.2) := by
  have hdigit : ∀ k : Nat, hexValue? (Text.hexDigit (k % 16)) = some (k % 16) := fun k ↦
    hexValue?_hexDigit (Nat.mod_lt k (by decide))
  have hunit : n / 16 / 16 / 16 % 16 * 4096 + n / 16 / 16 % 16 * 256 + (n / 16 % 16 * 16 + n % 16) = n := by
    omega
  simp only [Text.hex, List.nil_append, List.cons_append, stringUnits?, hdigit]
  cases hrest : stringUnits? rest with
  | none => rfl
  | some found => simp [hunit]

theorem stringUnits?_plain {c : Char} (hquote : c ≠ '"') (hbackslash : c ≠ '\\') (h : ¬ c.toNat < 32)
    (rest : List Char) :
    stringUnits? (c :: rest) = (stringUnits? rest).map fun found ↦ (c.toNat :: found.1, found.2) := by
  rw [stringUnits?.eq_5 c rest hquote (fun _ _ _ _ _ hc _ ↦ hbackslash hc) (fun _ _ hc _ ↦ hbackslash hc),
    if_neg (not_or_intro h hbackslash)]
  cases stringUnits? rest <;> rfl

/-- However a character is escaped, it is read as its own code unit. -/
theorem stringUnits?_escapeCharacter (c : Char) (rest : List Char) :
    stringUnits? (escapeCharacter c ++ rest) =
      (stringUnits? rest).map fun found ↦ (c.toNat :: found.1, found.2) := by
  unfold escapeCharacter
  split_ifs with hquote hbackslash hnewline hreturn htab hfeed hback hcontrol
  · exact stringUnits?_letter (by rw [hquote]; rfl) rest
  · exact stringUnits?_letter (by rw [hbackslash]; rfl) rest
  · exact stringUnits?_letter (by rw [hnewline]; rfl) rest
  · exact stringUnits?_letter (by rw [hreturn]; rfl) rest
  · exact stringUnits?_letter (by rw [htab]; rfl) rest
  · exact stringUnits?_letter (by rw [hfeed]; rfl) rest
  · exact stringUnits?_letter (by rw [hback]; rfl) rest
  · exact stringUnits?_hex (by omega) rest
  · exact stringUnits?_plain hquote hbackslash hcontrol rest

/-- An escaped text is read up to the closing quote. -/
theorem stringUnits?_flatMap_escapeCharacter (text rest : List Char) :
    stringUnits? (text.flatMap escapeCharacter ++ '"' :: rest) = some (text.map Char.toNat, rest) := by
  induction text with
  | nil => simp [stringUnits?]
  | cons c text ih =>
    rw [List.flatMap_cons, List.append_assoc, stringUnits?_escapeCharacter, ih]
    rfl

/-- No character is one half of a character beyond the basic plane. -/
theorem not_surrogate (c : Char) : ¬ (0xD800 ≤ c.toNat ∧ c.toNat < 0xE000) := by
  have hvalid : c.toNat < 0xD800 ∨ (0xDFFF < c.toNat ∧ c.toNat < 0x110000) := c.valid
  omega

/-- Characters are their own units, so nothing is joined. -/
theorem joinUnits_map_toNat (text : List Char) : joinUnits (text.map Char.toNat) = text := by
  induction text with
  | nil => rfl
  | cons c rest ih =>
    have hself := not_surrogate c
    cases rest with
    | nil => simp [joinUnits, if_neg hself]
    | cons next rest =>
      have hpair : ¬ (0xD800 ≤ c.toNat ∧ c.toNat < 0xDC00 ∧ 0xDC00 ≤ next.toNat ∧ next.toNat < 0xE000) := by omega
      rw [List.map_cons, List.map_cons, joinUnits, if_neg hpair, if_neg hself, Char.ofNat_toNat]
      exact congrArg (c :: ·) ih

/-- A written string, after its opening quote, is read back as it was. -/
theorem readString_flatMap_escapeCharacter (text rest : List Char) :
    readString (text.flatMap escapeCharacter ++ '"' :: rest) = .ok (String.ofList text, rest) := by
  rw [readString, stringUnits?_flatMap_escapeCharacter]
  simp only [joinUnits_map_toNat]

theorem writeString_append (text rest : List Char) :
    writeString text ++ rest = '"' :: (text.flatMap escapeCharacter ++ '"' :: rest) := by
  simp [writeString]

/-- A text is read back, whatever follows it. -/
theorem readScalar_writeString (text rest : List Char) :
    readScalar (writeString text ++ rest) = .ok (.str (String.ofList text), rest) := by
  rw [writeString_append, readScalar, readString_flatMap_escapeCharacter]
  rfl

/-! ## Integers -/

theorem isDigit_of_mem_toDigits {n : Nat} : ∀ c ∈ Nat.toDigits 10 n, c.isDigit = true :=
  fun _ hc ↦ Nat.isDigit_of_mem_toDigits (by decide) (by decide) hc

theorem exists_toDigits_eq_cons (n : Nat) :
    ∃ first digits, Nat.toDigits 10 n = first :: digits ∧ first.isDigit = true := by
  cases hdigits : Nat.toDigits 10 n with
  | nil => exact absurd hdigits Nat.toDigits_ne_nil
  | cons first digits => exact ⟨first, digits, rfl, isDigit_of_mem_toDigits first (hdigits ▸ List.mem_cons_self)⟩

theorem digitValue?_digitChar {d : Nat} (h : d < 10) : Text.digitValue? d.digitChar = some d := by
  revert d
  decide

theorem digitChar_ne_zero {d : Nat} (h : d < 10) (positive : 0 < d) : d.digitChar ≠ '0' := by
  revert d
  decide

theorem numeral_append_singleton (digits : List Char) (c : Char) :
    Text.numeral (digits ++ [c]) = 10 * Text.numeral digits + (Text.digitValue? c).getD 0 := by
  simp [Text.numeral]

/-- The digits of a number write that number. -/
theorem numeral_toDigits (n : Nat) : Text.numeral (Nat.toDigits 10 n) = n := by
  induction n using Nat.strongRecOn with
  | ind n ih =>
    rcases Nat.lt_or_ge n 10 with hsmall | hlarge
    · rw [Nat.toDigits_of_lt_base hsmall, Text.numeral, List.foldl_cons, List.foldl_nil, digitValue?_digitChar hsmall,
        Option.getD_some, Nat.mul_zero, Nat.zero_add]
    · have hquotient : n / 10 < n := by omega
      rw [Nat.toDigits_of_base_le (by decide) hlarge, numeral_append_singleton, ih (n / 10) hquotient,
        digitValue?_digitChar (Nat.mod_lt n (by decide)), Option.getD_some]
      exact Nat.div_add_mod n 10

/-- The digits of a positive number do not start with a zero. -/
theorem head?_toDigits_ne {n : Nat} (positive : 0 < n) : (Nat.toDigits 10 n).head? ≠ some '0' := by
  induction n using Nat.strongRecOn with
  | ind n ih =>
    rcases Nat.lt_or_ge n 10 with hsmall | hlarge
    · rw [Nat.toDigits_of_lt_base hsmall, List.head?_cons]
      intro hhead
      exact digitChar_ne_zero hsmall positive (Option.some.inj hhead)
    · have hfirst := ih (n / 10) (by omega) (by omega)
      rw [Nat.toDigits_of_base_le (by decide) hlarge, List.head?_append_of_ne_nil _ Nat.toDigits_ne_nil]
      exact hfirst

/-- The text is over, or goes on with a character that no number goes on with. -/
def Delimited (text : List Char) : Prop := ∀ c ∈ text.head?, c = ',' ∨ c = ']' ∨ c = '\x7d' ∨ c = '\n'

theorem Delimited.fractionPart_eq {text : List Char} (h : Delimited text) : fractionPart text = ([], text) := by
  cases text with
  | nil => rfl
  | cons c rest =>
    rcases h c rfl with rfl | rfl | rfl | rfl <;> rfl

theorem Delimited.exponentPart_eq {text : List Char} (h : Delimited text) : exponentPart text = (none, text) := by
  cases text with
  | nil => rfl
  | cons c rest =>
    rcases h c rfl with rfl | rfl | rfl | rfl <;> rfl

theorem Delimited.spanDigits_append {text : List Char} (h : Delimited text) {digits : List Char}
    (hdigits : ∀ c ∈ digits, c.isDigit = true) : spanDigits (digits ++ text) = (digits, text) := by
  have hnone : text.takeWhile Char.isDigit = [] ∧ text.dropWhile Char.isDigit = text := by
    cases text with
    | nil => exact ⟨rfl, rfl⟩
    | cons c rest => rcases h c rfl with rfl | rfl | rfl | rfl <;> exact ⟨rfl, rfl⟩
  rw [spanDigits, List.takeWhile_append_of_pos hdigits, List.dropWhile_append_of_pos hdigits, hnone.1, hnone.2,
    List.append_nil]

theorem Delimited.wholePart?_toDigits {text : List Char} (h : Delimited text) (n : Nat) :
    wholePart? (Nat.toDigits 10 n ++ text) = some (Nat.toDigits 10 n, text) := by
  rcases Nat.eq_zero_or_pos n with rfl | hpositive
  · rfl
  · have hhead := head?_toDigits_ne hpositive
    have hspan := h.spanDigits_append (isDigit_of_mem_toDigits (n := n))
    obtain ⟨first, digits, hdigits, -⟩ := exists_toDigits_eq_cons n
    rw [hdigits] at hhead hspan ⊢
    have hfirst : first ≠ '0' := fun heq ↦ hhead (congrArg some heq)
    rw [List.cons_append] at hspan ⊢
    rw [wholePart?.eq_2 _ fun _ heq ↦ hfirst (List.cons.inj heq).1, hspan]

theorem length_toDigits_le {n width : Nat} (positive : 0 < width) (short : n < Nat.pow 10 width) :
    (Nat.toDigits 10 n).length ≤ width :=
  (Nat.length_toDigits_le_iff (by decide) positive).mpr short

theorem Delimited.readMagnitude_toDigits {text : List Char} (h : Delimited text) {n : Nat}
    (short : n < Nat.pow 10 maxDigits) (negative : Bool) :
    readMagnitude negative (Nat.toDigits 10 n ++ text) = .ok (.int (if negative then -(n : Int) else n), text) := by
  have hlength : ¬ (Nat.toDigits 10 n).length > maxDigits := Nat.not_lt.mpr (length_toDigits_le (by decide) short)
  rw [readMagnitude, h.wholePart?_toDigits n]
  simp only [h.fractionPart_eq, h.exponentPart_eq, numeral_toDigits, if_neg hlength]
  rfl

/-- What starts with a digit can only be a number. -/
theorem readScalar_of_isDigit {c : Char} (h : c.isDigit = true) (rest : List Char) :
    readScalar (c :: rest) = readMagnitude false (c :: rest) := by
  rw [readScalar.eq_9]
  all_goals
    rintro _ ⟨⟩
    cases h

theorem readScalar_minus_of_isDigit {c : Char} (h : c.isDigit = true) (rest : List Char) :
    readScalar ('-' :: c :: rest) = readMagnitude true (c :: rest) := by
  rw [readScalar.eq_8]
  rintro _ ⟨⟩
  cases h

/-- An integer starts with a sign or a digit. -/
theorem exists_writeInt_eq_cons (n : Int) :
    ∃ c more, Number.writeInt n = c :: more ∧ (c = '-' ∨ c.isDigit = true) := by
  obtain ⟨first, digits, hdigits, hfirst⟩ := exists_toDigits_eq_cons n.natAbs
  unfold Number.writeInt
  split_ifs with hsign
  · exact ⟨'-', _, rfl, Or.inl rfl⟩
  · exact ⟨first, digits, hdigits, Or.inr hfirst⟩

/-- An integer is read back where no number goes on behind it. -/
theorem Delimited.readScalar_writeInt {text : List Char} (h : Delimited text) {n : Int}
    (short : n.natAbs < Nat.pow 10 maxDigits) :
    readScalar (Number.writeInt n ++ text) = .ok (.int n, text) := by
  have hmagnitude := h.readMagnitude_toDigits short
  obtain ⟨first, digits, hdigits, hfirst⟩ := exists_toDigits_eq_cons n.natAbs
  unfold Number.writeInt
  rw [hdigits] at hmagnitude ⊢
  split_ifs with hsign
  · have hvalue : -(n.natAbs : Int) = n := by omega
    calc
      readScalar ('-' :: first :: (digits ++ text)) = readMagnitude true (first :: digits ++ text) :=
        readScalar_minus_of_isDigit hfirst _
      _ = .ok (.int (-(n.natAbs : Int)), text) := hmagnitude true
      _ = .ok (.int n, text) := by rw [hvalue]
  · have hvalue : (n.natAbs : Int) = n := by omega
    calc
      readScalar (first :: (digits ++ text)) = readMagnitude false (first :: digits ++ text) :=
        readScalar_of_isDigit hfirst _
      _ = .ok (.int n.natAbs, text) := hmagnitude false
      _ = .ok (.int n, text) := by rw [hvalue]

end ContractAudit.Json
