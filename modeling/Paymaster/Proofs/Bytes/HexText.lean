import Paymaster.Proofs.Text.Trimming
import Paymaster.Bytes.Hex
/-!
# Reading hexadecimal text

A text is read exactly if its core is the digits of some bytes, in either letter case; so
bytes have one spelling up to case and blanks. Reading the code units of the text in pairs,
without looking at its characters, comes to the same.
-/
namespace Paymaster.Hex

private theorem digitValue?_of_not_ascii {c : Char} (hc : 128 ≤ c.toNat) : digitValue? c = none := by
  have hbeyond (last : Char) (hlast : last.toNat < 128) : ¬ c ≤ last := by
    intro h
    have hle : c.toNat ≤ last.toNat := h
    omega
  rw [digitValue?, if_neg fun h => hbeyond '9' (by decide) h.2,
    if_neg fun h => hbeyond 'f' (by decide) h.2, if_neg fun h => hbeyond 'F' (by decide) h.2]

private theorem digitChar_lt {v : Nat} (hv : v < 16) : (Nat.digitChar v).toNat < 128 := by
  have hall : ∀ v < 16, (Nat.digitChar v).toNat < 128 := by decide
  exact hall v hv

private theorem digitValue?_eq_some_iff {c : Char} {v : Nat} :
    digitValue? c = some v ↔ v < 16 ∧ c.toLower = Nat.digitChar v := by
  by_cases hc : c.toNat < 128
  · have hvalue := Text.forall_ascii
      (fun c => (∀ v < 16, digitValue? c = some v ↔ c.toLower = Nat.digitChar v) ∧
        ∀ v ∈ digitValue? c, v < 16) (by decide) hc
    constructor
    · intro h
      have hv := hvalue.2 v h
      exact ⟨hv, (hvalue.1 v hv).mp h⟩
    · intro h
      exact (hvalue.1 v h.1).mpr h.2
  · rw [digitValue?_of_not_ascii (by omega), Text.toLower_of_not_ascii (by omega)]
    refine iff_of_false nofun fun h => ?_
    have hlt := digitChar_lt h.1
    rw [← h.2] at hlt
    exact hc hlt

private theorem byte?_eq_some_iff {high low : Char} {b : UInt8} :
    byte? high low = some b ↔ Text.lower [high, low] = pair b := by
  have hb := b.toNat_lt
  simp only [pair, Text.lower_cons, Text.lower_nil, List.cons.injEq, and_true]
  constructor
  · intro h
    unfold byte? at h
    split at h
    next upper under hupper hunder =>
      obtain ⟨hupperLt, hupper⟩ := digitValue?_eq_some_iff.mp hupper
      obtain ⟨hunderLt, hunder⟩ := digitValue?_eq_some_iff.mp hunder
      have hjoined : b.toNat = 16 * upper + under := by
        cases h
        rw [UInt8.toNat_ofNat']
        omega
      have hhigh : b.toNat / 16 = upper := by omega
      have hlow : b.toNat % 16 = under := by omega
      rw [hhigh, hlow]
      exact ⟨hupper, hunder⟩
    next => cases h
  · rintro ⟨hhigh, hlow⟩
    have hupper : digitValue? high = some (b.toNat / 16) :=
      digitValue?_eq_some_iff.mpr ⟨by omega, hhigh⟩
    have hunder : digitValue? low = some (b.toNat % 16) :=
      digitValue?_eq_some_iff.mpr ⟨by omega, hlow⟩
    have hjoined : 16 * (b.toNat / 16) + b.toNat % 16 = b.toNat := by omega
    simp only [byte?, hupper, hunder, hjoined, UInt8.ofNat_toNat]

private theorem byte?_eq_none_iff {high low : Char} :
    byte? high low = none ↔ digitValue? high = none ∨ digitValue? low = none := by
  unfold byte?
  cases digitValue? high <;> cases digitValue? low <;> simp

private theorem lower_cons_cons_eq_digits_iff {high low : Char} {rest : List Char} {b : UInt8}
    {bs : Bytes} :
    Text.lower (high :: low :: rest) = digits (b :: bs) ↔
      byte? high low = some b ∧ Text.lower rest = digits bs := by
  rw [byte?_eq_some_iff]
  simp [pair, and_assoc]

private theorem readPairs_eq_some_iff {cs : List Char} {bytes : Bytes} :
    readPairs cs = some bytes ↔ Text.lower cs = digits bytes := by
  fun_induction readPairs cs generalizing bytes with
  | case1 => cases bytes <;> simp [pair]
  | case2 c =>
    refine iff_of_false (by simp) fun h => ?_
    have hlength := congrArg List.length h
    rw [Text.length_lower, length_digits, List.length_singleton] at hlength
    omega
  | case3 high low rest b bs hbyte hrest ih =>
    cases bytes with
    | nil => simp
    | cons b' bs' => rw [lower_cons_cons_eq_digits_iff, ← ih, hbyte, hrest]; simp
  | case4 high low rest hnot ih =>
    refine iff_of_false (by simp) fun h => ?_
    cases bytes with
    | nil => cases h
    | cons b bs =>
      obtain ⟨hbyte, hrest⟩ := lower_cons_cons_eq_digits_iff.mp h
      exact hnot b bs hbyte (ih.mpr hrest)

theorem toBytes?_eq_some_iff {text : String} {bytes : Bytes} :
    toBytes? text = some bytes ↔
      String.ofList (Text.lower (Text.trim text.toList)) = ofBytes bytes := by
  rw [toBytes?, readPairs_eq_some_iff, ofBytes, String.ofList_inj]

private theorem mem_digits {c : Char} {bytes : Bytes} (h : c ∈ digits bytes) :
    ∃ v < 16, c = Nat.digitChar v := by
  obtain ⟨b, _, hc⟩ := List.mem_flatMap.mp h
  have hb := b.toNat_lt
  simp only [pair, List.mem_cons, List.not_mem_nil, or_false] at hc
  cases hc with
  | inl hhigh => exact ⟨b.toNat / 16, by omega, hhigh⟩
  | inr hlow => exact ⟨b.toNat % 16, by omega, hlow⟩

private theorem trim_digits (bytes : Bytes) : Text.trim (digits bytes) = digits bytes := by
  apply Text.trim_of_no_blank
  intro c hc
  obtain ⟨v, hv, rfl⟩ := mem_digits hc
  have hall : ∀ v < 16, Text.isBlank (Nat.digitChar v) = false := by decide
  exact hall v hv

private theorem lower_digits (bytes : Bytes) : Text.lower (digits bytes) = digits bytes := by
  have hsame : ∀ c ∈ digits bytes, c.toLower = id c := by
    intro c hc
    obtain ⟨v, hv, rfl⟩ := mem_digits hc
    have hall : ∀ v < 16, (Nat.digitChar v).toLower = Nat.digitChar v := by decide
    exact hall v hv
  rw [Text.lower, List.map_congr_left hsame, List.map_id]

theorem toBytes?_ofBytes (bytes : Bytes) : toBytes? (ofBytes bytes) = some bytes := by
  rw [toBytes?_eq_some_iff, ofBytes, String.toList_ofList, trim_digits, lower_digits]

/-- The spellings of the sixteen digits. -/
def spellings : List Char :=
  ['0', '1', '2', '3', '4', '5', '6', '7', '8', '9', 'a', 'b', 'c', 'd', 'e', 'f',
    'A', 'B', 'C', 'D', 'E', 'F']

private theorem digitValue?_eq_none_iff {c : Char} : digitValue? c = none ↔ c ∉ spellings := by
  by_cases hc : c.toNat < 128
  · exact Text.forall_ascii (fun c => digitValue? c = none ↔ c ∉ spellings) (by decide) hc
  · refine iff_of_true (digitValue?_of_not_ascii (by omega)) fun h => ?_
    have hall : ∀ c ∈ spellings, c.toNat < 128 := by simp [spellings]
    exact hc (hall c h)

private theorem readPairs_cons_cons_eq_none_iff {high low : Char} {rest : List Char} :
    readPairs (high :: low :: rest) = none ↔ byte? high low = none ∨ readPairs rest = none := by
  rw [readPairs]
  cases byte? high low <;> cases readPairs rest <;> simp

private theorem readPairs_eq_none_iff : ∀ cs : List Char,
    readPairs cs = none ↔ cs.length % 2 = 1 ∨ ∃ c ∈ cs, c ∉ spellings
  | [] => by simp [readPairs]
  | [c] => by simp [readPairs]
  | high :: low :: rest => by
    have hlength : (high :: low :: rest).length % 2 = 1 ↔ rest.length % 2 = 1 := by
      rw [List.length_cons, List.length_cons]
      omega
    rw [readPairs_cons_cons_eq_none_iff, readPairs_eq_none_iff rest, byte?_eq_none_iff,
      digitValue?_eq_none_iff, digitValue?_eq_none_iff, hlength]
    simp only [List.mem_cons, exists_eq_or_imp]
    tauto

/-- The code units of a text in UTF-8. -/
def codeUnits (cs : List Char) : Bytes :=
  cs.flatMap String.utf8EncodeChar

/-- A code unit taken for the character of its number. -/
def unitChar (unit : UInt8) : Char :=
  Char.ofNat unit.toNat

def pairsOf {α : Type} : List α → List (α × α)
  | first :: second :: rest => (first, second) :: pairsOf rest
  | _ => []

def unitPair? (units : UInt8 × UInt8) : Option UInt8 :=
  byte? (unitChar units.1) (unitChar units.2)

/-- Reads an even number of code units in pairs, whatever characters they belong to. -/
def readUnits (units : Bytes) : Option Bytes :=
  if units.length % 2 = 0 then (pairsOf units).mapM unitPair? else none

private theorem readUnits_eq_readPairs :
    ∀ units : Bytes, readUnits units = readPairs (units.map unitChar)
  | [] => rfl
  | [unit] => rfl
  | high :: low :: rest => by
    have hlength : (high :: low :: rest).length % 2 = rest.length % 2 := by
      rw [List.length_cons, List.length_cons]
      omega
    have ih := readUnits_eq_readPairs rest
    rw [readUnits] at ih
    rw [readUnits, hlength, pairsOf, List.map_cons, List.map_cons, readPairs, ← ih]
    by_cases heven : rest.length % 2 = 0
    · rw [if_pos heven, if_pos heven, List.mapM_cons, unitPair?]
      cases byte? (unitChar high) (unitChar low) with
      | none => rfl
      | some b => cases (pairsOf rest).mapM unitPair? <;> rfl
    · rw [if_neg heven, if_neg heven]
      cases byte? (unitChar high) (unitChar low) <;> rfl

theorem utf8EncodeChar_of_ascii {c : Char} (hc : c.toNat < 128) :
    String.utf8EncodeChar c = [UInt8.ofNat c.toNat] :=
  if_pos (Nat.le_of_lt_succ hc)

theorem exists_unit_of_not_ascii {c : Char} (hc : 128 ≤ c.toNat) :
    ∃ unit ∈ String.utf8EncodeChar c, 128 ≤ unit.toNat := by
  have hnot : ¬ c.val.toNat ≤ 127 := Nat.not_le.mpr hc
  refine ⟨UInt8.ofNat (c.val.toNat % 64 + 128), ?_, ?_⟩
  · simp only [String.utf8EncodeChar, if_neg hnot]
    split
    · simp
    · split <;> simp
  · rw [UInt8.toNat_ofNat']
    omega

private theorem unitChar_of_ascii {c : Char} (hc : c.toNat < 128) :
    unitChar (UInt8.ofNat c.toNat) = c := by
  rw [unitChar, UInt8.toNat_ofNat', Nat.mod_eq_of_lt (by omega), Char.ofNat_toNat]

private theorem not_mem_spellings_of_unit {unit : UInt8} (hunit : 128 ≤ unit.toNat) :
    unitChar unit ∉ spellings := by
  have hunitLt := unit.toNat_lt
  have htoNat : (unitChar unit).toNat = unit.toNat := by
    have hvalid : unit.toNat.isValidChar := .inl (by omega)
    rw [unitChar, Char.ofNat, dif_pos hvalid]
    rfl
  exact digitValue?_eq_none_iff.mp (digitValue?_of_not_ascii (by omega))

private theorem map_unitChar_codeUnits {cs : List Char} (hascii : ∀ c ∈ cs, c.toNat < 128) :
    (codeUnits cs).map unitChar = cs := by
  induction cs with
  | nil => rfl
  | cons c cs ih =>
    have hc : c.toNat < 128 := hascii c List.mem_cons_self
    have hcs : ∀ d ∈ cs, d.toNat < 128 := fun d hd => hascii d (List.mem_cons_of_mem c hd)
    have htail := ih hcs
    rw [codeUnits] at htail
    rw [codeUnits, List.flatMap_cons, utf8EncodeChar_of_ascii hc, List.map_append, htail]
    simp [unitChar_of_ascii hc]

/-- No character beyond ASCII is read, by its code units no more than as a character. -/
theorem readUnits_codeUnits (cs : List Char) : readUnits (codeUnits cs) = readPairs cs := by
  rw [readUnits_eq_readPairs]
  by_cases hascii : ∀ c ∈ cs, c.toNat < 128
  · rw [map_unitChar_codeUnits hascii]
  · obtain ⟨c, hc, hbeyond⟩ : ∃ c ∈ cs, 128 ≤ c.toNat := by
      simpa only [not_forall, exists_prop, Nat.not_lt] using hascii
    obtain ⟨unit, hunit, hlarge⟩ := exists_unit_of_not_ascii hbeyond
    have hunits : readPairs ((codeUnits cs).map unitChar) = none := by
      apply (readPairs_eq_none_iff _).mpr
      refine .inr ⟨unitChar unit, ?_, not_mem_spellings_of_unit hlarge⟩
      exact List.mem_map_of_mem (List.mem_flatMap.mpr ⟨c, hc, hunit⟩)
    have hchars : readPairs cs = none := by
      apply (readPairs_eq_none_iff cs).mpr
      exact .inr ⟨c, hc, digitValue?_eq_none_iff.mp (digitValue?_of_not_ascii hbeyond)⟩
    rw [hunits, hchars]

/-- Bytes are read back from their digits. A text is read as some bytes exactly if what is left of it
without the blanks around is, in lower case, the digits of those bytes. It is refused exactly if that
core has an odd number of characters or one that spells no digit. Reading the UTF-8 code units of the
core in pairs gives the same answer for every text. -/
theorem hex_text_exact :
    (∀ bytes, toBytes? (ofBytes bytes) = some bytes) ∧
    ∀ text : String, ∃ core, Text.HasCore text.toList core ∧
      (∀ bytes, toBytes? text = some bytes ↔
        String.ofList (Text.lower core) = ofBytes bytes) ∧
      (toBytes? text = none ↔ core.length % 2 = 1 ∨ ∃ c ∈ core, c ∉ spellings) ∧
      toBytes? text = readUnits (codeUnits core) := by
  refine ⟨toBytes?_ofBytes, fun text => ?_⟩
  refine ⟨Text.trim text.toList, Text.hasCore_trim text.toList, ?_, ?_, ?_⟩
  · intro bytes
    exact toBytes?_eq_some_iff
  · exact readPairs_eq_none_iff _
  · exact (readUnits_codeUnits _).symm

end Paymaster.Hex
