import Paymaster.Address
import Paymaster.Proofs.Bytes.Base58
import Paymaster.Proofs.Bytes.HexText
import Paymaster.Proofs.Bytes.WordCarry
/-!
# Base 58 in machine words

Bytes and texts correspond one to one. Writing and reading can be done on bytes and code
units with words of 32 bits, without a value ever leaving its type or an index the
alphabet, and after each symbol the digits are those of the number read so far.
-/
namespace Paymaster.Base58

open Positional

/-- Splits a word by division. -/
def byRemainder : WordSplit 58 where
  one_lt_base := by decide
  digit word := (word % 58).toUInt8
  carry word := word / 58
  toNat_digit word := by
    rw [UInt32.toNat_toUInt8, UInt32.toNat_mod]
    exact Nat.mod_eq_of_lt (Nat.lt_trans (Nat.mod_lt _ (by decide)) (by decide))
  toNat_carry word := UInt32.toNat_div word 58

/-- Splits a word into its last byte and the bits before it. -/
def byMask : WordSplit 256 where
  one_lt_base := by decide
  digit word := (word &&& 0xff).toUInt8
  carry word := word >>> 8
  toNat_digit word := by
    rw [UInt32.toNat_toUInt8, UInt32.toNat_and]
    change (word.toNat &&& 2 ^ 8 - 1) % 2 ^ 8 = word.toNat % 2 ^ 8
    rw [Nat.and_two_pow_sub_one_eq_mod, Nat.mod_mod]
  toNat_carry word := by
    rw [UInt32.toNat_shiftRight]
    exact Nat.shiftRight_eq_div_pow word.toNat 8

/-- The alphabet in code units, one for each symbol. -/
def alphabetUnits : Bytes :=
  alphabet.map fun c => UInt8.ofNat c.toNat

def unitValue? (unit : UInt8) : Option UInt8 :=
  (alphabetUnits.idxOf? unit).map UInt8.ofNat

/-- Writes bytes by way of digits in bytes and carries in words. -/
def encodeWords (bytes : Bytes) : Option (List Char) :=
  if bytes = [] then some []
  else do
    let digits ← pushWords byRemainder 256 [0] bytes
    let skip := (digits.takeWhile (· = 0)).length
    let zeros := (bytes.takeWhile (· = 0)).length
    let symbols ← (digits.drop skip).mapM fun digit => alphabet[digit.toNat]?
    return List.replicate zeros '1' ++ symbols

/-- Reads code units up to the first one that is no symbol. -/
def readSymbols (digits : List UInt8) : Bytes → Option (Except AddressError (List UInt8))
  | [] => some (.ok digits)
  | unit :: units =>
    match unitValue? unit with
    | none => some (.error .invalidCharacter)
    | some value => do
      let pushed ← pushWord byMask 58 digits value
      readSymbols pushed units

/-- Reads code units by way of bytes and carries in words. -/
def decodeWords (units : Bytes) : Option (Except AddressError Bytes) :=
  if units = [] then some (.error .invalidLength)
  else do
    let read ← readSymbols [] units
    let zeros := (units.takeWhile (· = 0x31)).length
    return read.map fun digits => List.replicate zeros 0 ++ digits

section Writing

private theorem mapM_alphabet {digits : List UInt8}
    (h : ∀ digit ∈ digits.map UInt8.toNat, digit < 58) :
    (digits.mapM fun digit => alphabet[digit.toNat]?) =
      some ((digits.map UInt8.toNat).map symbol) := by
  induction digits with
  | nil => rfl
  | cons digit digits ih =>
    have hdigit : digit.toNat < alphabet.length := by
      rw [length_alphabet]
      exact h digit.toNat List.mem_cons_self
    have hsymbol : alphabet[digit.toNat]? = some (symbol digit.toNat) := by
      rw [symbol, List.getD_eq_getElem?_getD, List.getElem?_eq_getElem hdigit, Option.getD_some]
    have hrest := ih fun d hd => h d (List.mem_cons_of_mem _ hd)
    simp only [List.mapM_cons, hsymbol, hrest, Option.bind_eq_bind, Option.bind_some,
      Option.pure_def, List.map_cons]

/-- Without the zero that may stand in front, digits are those of their number. -/
private theorem map_dropWhile_of_seeded {n : Nat} {digits : List UInt8}
    (h : RepresentsSeeded 58 n digits) :
    (digits.dropWhile (· = 0)).map UInt8.toNat = ofNat 58 n := by
  cases h with
  | seed => simp [ofNat]
  | numeral hn h =>
    have hhead : digits.dropWhile (· = 0) = digits := by
      cases digits with
      | nil => rfl
      | cons first rest =>
        have hfirst : first ≠ 0 := by
          rintro rfl
          exact h.isNumeral.head rfl
        rw [List.dropWhile_cons_of_neg (by simpa using hfirst)]
    rw [hhead, ← h.value_eq, ofNat_value (by decide) h.isNumeral]

private theorem encode_eq_ones_append (bytes : Bytes) :
    encode bytes = List.replicate (bytes.takeWhile (· = 0)).length '1' ++
      (ofNat 58 (value 256 (bytes.map UInt8.toNat))).map symbol := by
  rw [encode_eq_rebase, rebase, List.map_append, map_symbol_takeWhile_zero, List.map_const']

private theorem drop_length_takeWhile {α : Type} (p : α → Bool) (xs : List α) :
    xs.drop (xs.takeWhile p).length = xs.dropWhile p := by
  calc xs.drop (xs.takeWhile p).length
      = (xs.takeWhile p ++ xs.dropWhile p).drop (xs.takeWhile p).length := by
        rw [List.takeWhile_append_dropWhile]
    _ = xs.dropWhile p := List.drop_left

private theorem exists_writeBytes (before after : Bytes) :
    ∃ digits,
      pushWords byRemainder 256 [0] (before ++ after) = pushWords byRemainder 256 digits after ∧
      RepresentsSeeded 58 (value 256 (before.map UInt8.toNat)) digits := by
  have hbytes : ∀ byte ∈ before, byte.toNat < (256 : UInt32).toNat := fun byte _ => byte.toNat_lt
  obtain ⟨digits, hrun, hdigits⟩ := exists_pushWords_seeded byRemainder 256 (by decide) hbytes
  refine ⟨digits, ?_, hdigits⟩
  rw [pushWords_append, hrun]
  rfl

theorem encodeWords_eq (bytes : Bytes) : encodeWords bytes = some (encode bytes) := by
  by_cases hempty : bytes = []
  · rw [encodeWords, if_pos hempty, hempty]
    rfl
  · obtain ⟨digits, hrun, hdigits⟩ := exists_writeBytes bytes []
    have hend : pushWords byRemainder 256 [0] bytes = some digits := by
      rwa [List.append_nil] at hrun
    have hmap := map_dropWhile_of_seeded hdigits
    have hlt : ∀ digit ∈ (digits.dropWhile (· = 0)).map UInt8.toNat, digit < 58 := by
      rw [hmap]
      exact (isNumeral_ofNat (by decide) _).lt
    rw [encodeWords, if_neg hempty, hend]
    simp only [Option.bind_eq_bind, Option.bind_some, drop_length_takeWhile, mapM_alphabet hlt, hmap,
      Option.pure_def, encode_eq_ones_append]

end Writing

section Units

/-- The code unit that a digit is written as. -/
def symbolUnit (digit : Nat) : UInt8 :=
  UInt8.ofNat (symbol digit).toNat

private theorem symbolUnit_spec : ∀ digit < 58, (symbol digit).toNat < 128 ∧
    unitValue? (symbolUnit digit) = some (UInt8.ofNat digit) ∧
    (symbolUnit digit = 0x31 ↔ digit = 0) := by
  decide +kernel

private theorem toNat_symbolUnit {digit : Nat} (h : digit < 58) :
    (symbolUnit digit).toNat = (symbol digit).toNat := by
  have hascii := (symbolUnit_spec digit h).1
  rw [symbolUnit, UInt8.toNat_ofNat']
  omega

private theorem mem_alphabet_iff {c : Char} : c ∈ alphabet ↔ ∃ digit < 58, symbol digit = c := by
  have hfound : c ∈ alphabet ↔ ∃ digit, symbolValue? c = some digit := by
    rw [← Option.isSome_iff_exists, ← Option.ne_none_iff_isSome, symbolValue?, Ne,
      List.idxOf?_eq_none_iff, not_not]
  rw [hfound]
  exact exists_congr fun _ => symbolValue?_eq_some_iff

private theorem mem_alphabetUnits_iff {unit : UInt8} :
    unit ∈ alphabetUnits ↔ ∃ digit < 58, symbolUnit digit = unit := by
  rw [alphabetUnits, List.mem_map]
  constructor
  · rintro ⟨c, hc, rfl⟩
    obtain ⟨digit, hdigit, rfl⟩ := mem_alphabet_iff.mp hc
    exact ⟨digit, hdigit, rfl⟩
  · rintro ⟨digit, hdigit, rfl⟩
    exact ⟨symbol digit, mem_alphabet_iff.mpr ⟨digit, hdigit, rfl⟩, rfl⟩

private theorem unitValue?_eq_none_iff {unit : UInt8} :
    unitValue? unit = none ↔ unit ∉ alphabetUnits := by
  rw [unitValue?, Option.map_eq_none_iff, List.idxOf?_eq_none_iff]

private theorem unitValue?_eq_some_iff {unit digit : UInt8} :
    unitValue? unit = some digit ↔ digit.toNat < 58 ∧ symbolUnit digit.toNat = unit := by
  constructor
  · intro h
    have hmem : unit ∈ alphabetUnits := by
      by_contra hnot
      rw [unitValue?_eq_none_iff.mpr hnot] at h
      cases h
    obtain ⟨value, hvalue, rfl⟩ := mem_alphabetUnits_iff.mp hmem
    rw [(symbolUnit_spec value hvalue).2.1] at h
    have hdigit : digit.toNat = value := by
      rw [← Option.some.inj h, UInt8.toNat_ofNat']
      omega
    exact ⟨hdigit ▸ hvalue, by rw [hdigit]⟩
  · rintro ⟨hlt, rfl⟩
    rw [(symbolUnit_spec digit.toNat hlt).2.1, UInt8.ofNat_toNat]

private theorem mem_alphabet_iff_units {c : Char} :
    c ∈ alphabet ↔ ∀ unit ∈ String.utf8EncodeChar c, unit ∈ alphabetUnits := by
  by_cases hc : c.toNat < 128
  · rw [Hex.utf8EncodeChar_of_ascii hc, List.forall_mem_singleton]
    constructor
    · intro hmem
      exact List.mem_map_of_mem hmem
    · intro hunit
      obtain ⟨digit, hdigit, hsame⟩ := mem_alphabetUnits_iff.mp hunit
      have hcode : (symbol digit).toNat = c.toNat := by
        rw [← toNat_symbolUnit hdigit, hsame, UInt8.toNat_ofNat']
        omega
      exact mem_alphabet_iff.mpr ⟨digit, hdigit, Char.toNat_inj.mp hcode⟩
  · obtain ⟨unit, hunit, hlarge⟩ := Hex.exists_unit_of_not_ascii (Nat.le_of_not_lt hc)
    refine iff_of_false ?_ fun hall => ?_
    · intro hmem
      obtain ⟨digit, hdigit, rfl⟩ := mem_alphabet_iff.mp hmem
      exact hc (symbolUnit_spec digit hdigit).1
    · obtain ⟨digit, hdigit, rfl⟩ := mem_alphabetUnits_iff.mp (hall unit hunit)
      have hascii := (symbolUnit_spec digit hdigit).1
      rw [toNat_symbolUnit hdigit] at hlarge
      omega

private theorem exists_unit_iff {text : List Char} :
    (∃ unit ∈ Hex.codeUnits text, unit ∉ alphabetUnits) ↔ ∃ c ∈ text, c ∉ alphabet := by
  simp only [Hex.codeUnits, List.mem_flatMap, mem_alphabet_iff_units, not_forall]
  constructor
  · rintro ⟨unit, ⟨c, hc, hunit⟩, hnot⟩
    exact ⟨c, hc, unit, hunit, hnot⟩
  · rintro ⟨c, hc, unit, hunit, hnot⟩
    exact ⟨unit, ⟨c, hc, hunit⟩, hnot⟩

private theorem codeUnits_map_symbol {digits : List Nat} (h : ∀ digit ∈ digits, digit < 58) :
    Hex.codeUnits (digits.map symbol) = digits.map symbolUnit := by
  induction digits with
  | nil => rfl
  | cons digit digits ih =>
    have hascii := (symbolUnit_spec digit (h digit List.mem_cons_self)).1
    have hrest := ih fun d hd => h d (List.mem_cons_of_mem _ hd)
    rw [Hex.codeUnits] at hrest
    rw [List.map_cons, Hex.codeUnits, List.flatMap_cons, Hex.utf8EncodeChar_of_ascii hascii, hrest]
    rfl

end Units

section Reading

private theorem readSymbols_append {units values : List UInt8}
    (h : units.mapM unitValue? = some values) (start : List UInt8) (rest : Bytes) :
    readSymbols start (units ++ rest) =
      (pushWords byMask 58 start values).bind fun read => readSymbols read rest := by
  induction units generalizing start values with
  | nil =>
    cases h
    rfl
  | cons unit units ih =>
    simp only [List.mapM_cons, Option.bind_eq_bind, Option.bind_eq_some_iff, Option.pure_def,
      Option.some.injEq] at h
    obtain ⟨value, hvalue, others, hothers, rfl⟩ := h
    simp only [List.cons_append, readSymbols, hvalue, ih hothers, pushWords, List.foldlM_cons,
      Option.bind_eq_bind, Option.bind_assoc]

private theorem mapM_unitValue? {digits : List Nat} (h : ∀ digit ∈ digits, digit < 58) :
    (digits.map symbolUnit).mapM unitValue? = some (digits.map UInt8.ofNat) := by
  apply (mapM_eq_some_iff unitValue?_eq_some_iff).mpr
  have hkept : ∀ digit ∈ digits, (UInt8.ofNat digit).toNat = digit :=
    fun digit hdigit => UInt8.toNat_ofNat_of_lt (Nat.lt_trans (h digit hdigit) (by decide))
  constructor
  · intro value hvalue
    obtain ⟨digit, hdigit, rfl⟩ := List.mem_map.mp hvalue
    rw [hkept digit hdigit]
    exact h digit hdigit
  · rw [List.map_map]
    refine List.map_congr_left fun digit hdigit => ?_
    rw [Function.comp_apply, hkept digit hdigit]

private theorem exists_readSymbols {units values : List UInt8}
    (h : units.mapM unitValue? = some values) (rest : Bytes) :
    ∃ read, readSymbols [] (units ++ rest) = readSymbols read rest ∧
      Represents 256 (value 58 (values.map UInt8.toNat)) read := by
  have hvalues := ((mapM_eq_some_iff unitValue?_eq_some_iff).mp h).1
  obtain ⟨read, hrun, hread⟩ := exists_pushWords_of_empty byMask 58 (by decide) hvalues
  refine ⟨read, ?_, hread⟩
  rw [readSymbols_append h, hrun]
  rfl

private theorem readSymbols_of_unknown {units : Bytes} (h : ∃ unit ∈ units, unit ∉ alphabetUnits) :
    readSymbols [] units = some (.error .invalidCharacter) := by
  obtain ⟨unknown, hfirst⟩ : ∃ unknown, units.find? (· ∉ alphabetUnits) = some unknown := by
    apply Option.isSome_iff_exists.mp
    simpa [List.find?_isSome] using h
  obtain ⟨hunknown, known, rest, rfl, hknown⟩ := List.find?_eq_some_iff_append.mp hfirst
  have hnone : unitValue? unknown = none :=
    unitValue?_eq_none_iff.mpr (by simpa using hunknown)
  have hsome : known.mapM unitValue? ≠ none := by
    simpa [mapM_eq_none_iff, unitValue?_eq_none_iff] using hknown
  obtain ⟨values, hvalues⟩ := Option.ne_none_iff_exists'.mp hsome
  obtain ⟨read, hread, _⟩ := exists_readSymbols hvalues (unknown :: rest)
  rw [hread, readSymbols, hnone]

private theorem length_takeWhile_map {α β : Type} {f : α → β} {p : β → Bool} {q : α → Bool}
    {xs : List α} (h : ∀ x ∈ xs, p (f x) = q x) :
    ((xs.map f).takeWhile p).length = (xs.takeWhile q).length := by
  induction xs with
  | nil => rfl
  | cons x xs ih =>
    have hrest := ih fun y hy => h y (List.mem_cons_of_mem _ hy)
    rw [List.map_cons, List.takeWhile_cons, List.takeWhile_cons, h x List.mem_cons_self]
    cases q x
    · rfl
    · exact congrArg Nat.succ hrest

private theorem length_takeWhile_symbol {digits : List Nat} (h : ∀ digit ∈ digits, digit < 58) :
    ((digits.map symbol).takeWhile (· = '1')).length = (digits.takeWhile (· = 0)).length :=
  length_takeWhile_map fun digit hdigit => by
    rw [decide_eq_decide]
    exact symbol_eq_one_iff (h digit hdigit)

private theorem length_takeWhile_symbolUnit {digits : List Nat} (h : ∀ digit ∈ digits, digit < 58) :
    ((digits.map symbolUnit).takeWhile (· = 0x31)).length = (digits.takeWhile (· = 0)).length :=
  length_takeWhile_map fun digit hdigit => by
    rw [decide_eq_decide]
    exact (symbolUnit_spec digit (h digit hdigit)).2.2

private theorem eq_of_represents {n : Nat} {read : List UInt8} (h : Represents 256 n read) :
    read = (ofNat 256 n).map UInt8.ofNat := by
  rw [← h.value_eq, ofNat_value (by decide) h.isNumeral, List.map_map]
  simp [Function.comp_def]

private theorem decode?_map_symbol_eq {digits : List Nat} (h : ∀ digit ∈ digits, digit < 58) :
    decode? (digits.map symbol) =
      some (List.replicate (digits.takeWhile (· = 0)).length 0 ++
        (ofNat 256 (value 58 digits)).map UInt8.ofNat) := by
  rw [decode?_map_symbol h, rebase, List.map_append, map_ofNat_takeWhile_zero h, List.map_const',
    length_takeWhile_symbol h]

theorem decodeWords_codeUnits (text : List Char) :
    decodeWords (Hex.codeUnits text) =
      some (if text = [] then .error .invalidLength
        else (decode? text).elim (.error .invalidCharacter) .ok) := by
  cases text with
  | nil => rfl
  | cons c cs =>
    have hunits : Hex.codeUnits (c :: cs) ≠ [] :=
      List.append_ne_nil_of_left_ne_nil String.utf8EncodeChar_ne_nil _
    rw [decodeWords, if_neg hunits, if_neg (List.cons_ne_nil c cs)]
    cases hread : decode? (c :: cs) with
    | none =>
      have hunknown := exists_unit_iff.mpr (decode?_eq_none_iff.mp hread)
      rw [readSymbols_of_unknown hunknown]
      rfl
    | some bytes =>
      obtain ⟨digits, hmapM, _⟩ := Option.map_eq_some_iff.mp hread
      obtain ⟨hdigits, htext⟩ := mapM_symbolValue?_eq_some_iff.mp hmapM
      have hvalues : (digits.map UInt8.ofNat).map UInt8.toNat = digits :=
        map_toNat_map_ofNat fun digit hdigit => Nat.lt_trans (hdigits digit hdigit) (by decide)
      obtain ⟨read, hrun, hrepresents⟩ := exists_readSymbols (mapM_unitValue? hdigits) []
      rw [List.append_nil] at hrun
      rw [hvalues] at hrepresents
      rw [← htext, decode?_map_symbol_eq hdigits] at hread
      rw [← htext, codeUnits_map_symbol hdigits, hrun, length_takeWhile_symbolUnit hdigits,
        ← Option.some.inj hread, ← eq_of_represents hrepresents]
      rfl

end Reading

theorem encode_eq_nil_iff {bytes : Bytes} : encode bytes = [] ↔ bytes = [] := by
  constructor
  · intro h
    have hread := decode?_encode bytes
    rw [h] at hread
    exact (Option.some.inj hread).symm
  · rintro rfl
    rfl

theorem length_takeWhile_encode (bytes : Bytes) :
    ((encode bytes).takeWhile (· = '1')).length = (bytes.takeWhile (· = 0)).length := by
  have hzeros : ((bytes.map UInt8.toNat).takeWhile (· = 0)).length =
      (bytes.takeWhile (· = 0)).length :=
    length_takeWhile_map fun byte _ => by
      rw [decide_eq_decide]
      exact UInt8.toNat_inj (b := 0)
  rw [encode_eq_rebase, length_takeWhile_symbol (rebase_lt (by decide) _ _), rebase,
    takeWhile_zero_append (isNumeral_ofNat (by decide) _).head, hzeros]

/-- Bytes and texts correspond one to one, leading zero bytes to leading ones; a text is refused
exactly for a code unit outside the alphabet. In machine words both directions give the same and
no check fails. While bytes are written, the digits are those of the number so far, with the zero
that they begin with as long as it is zero; while symbols are read, the bytes are. -/
theorem base58_bijection :
    (∀ bytes, (encode bytes = [] ↔ bytes = []) ∧ decode? (encode bytes) = some bytes ∧
      ((encode bytes).takeWhile (· = '1')).length = (bytes.takeWhile (· = 0)).length) ∧
    (∀ text, (decode? text = none ↔ ∃ unit ∈ Hex.codeUnits text, unit ∉ alphabetUnits) ∧
      ∀ bytes, decode? text = some bytes ↔ encode bytes = text) ∧
    (∀ bytes, encodeWords bytes = some (encode bytes)) ∧
    (∀ text, decodeWords (Hex.codeUnits text) =
      some (if text = [] then .error .invalidLength
        else (decode? text).elim (.error .invalidCharacter) .ok)) ∧
    (∀ before after : Bytes, ∃ digits,
      pushWords byRemainder 256 [0] (before ++ after) = pushWords byRemainder 256 digits after ∧
      RepresentsSeeded 58 (value 256 (before.map UInt8.toNat)) digits) ∧
    ∀ before after values : Bytes, before.mapM unitValue? = some values → ∃ bytes,
      readSymbols [] (before ++ after) = readSymbols bytes after ∧
      Represents 256 (value 58 (values.map UInt8.toNat)) bytes := by
  refine ⟨?_, ?_, encodeWords_eq, decodeWords_codeUnits, exists_writeBytes, ?_⟩
  · intro bytes
    exact ⟨encode_eq_nil_iff, decode?_encode bytes, length_takeWhile_encode bytes⟩
  · intro text
    exact ⟨decode?_eq_none_iff.trans exists_unit_iff.symm, fun bytes => decode?_eq_some_iff⟩
  · intro before after values hvalues
    exact exists_readSymbols hvalues after

/-- The last symbol twice, with the first one before them and a blank behind. -/
theorem base58_bijection_small :
    [0x31, 0x7a, 0x7a].mapM unitValue? = some [0, 57, 57] ∧ ∃ bytes,
      readSymbols [] ([0x31, 0x7a, 0x7a] ++ [0x20]) = readSymbols bytes [0x20] ∧
      Represents 256 (57 * 58 + 57) bytes := by
  have hvalues : [0x31, 0x7a, 0x7a].mapM unitValue? = some [0, 57, 57] := by decide +kernel
  exact ⟨hvalues, base58_bijection.2.2.2.2.2 [0x31, 0x7a, 0x7a] [0x20] [0, 57, 57] hvalues⟩

end Paymaster.Base58
