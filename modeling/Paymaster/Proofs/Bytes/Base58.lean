import Paymaster.Bytes.Base58
import Paymaster.Proofs.Bytes.Numeral
/-!
# Base 58 loses nothing

Writing and reading are the two changes of base between bytes and symbols, with
each leading zero byte as one leading `1`. So a text is readable exactly if it is
the text of some bytes, and these are the bytes that are read.
-/
namespace Paymaster.Base58

theorem length_alphabet : alphabet.length = 58 := by decide +kernel

private theorem symbol_zero : symbol 0 = '1' := by decide +kernel

theorem symbolValue?_symbol : ∀ digit < 58, symbolValue? (symbol digit) = some digit := by
  decide +kernel

theorem symbol_eq_one_iff {digit : Nat} (h : digit < 58) : symbol digit = '1' ↔ digit = 0 := by
  constructor
  · intro hone
    have hzero := symbolValue?_symbol 0 (by decide)
    rw [symbol_zero, ← hone, symbolValue?_symbol digit h] at hzero
    exact Option.some.inj hzero
  · rintro rfl
    exact symbol_zero

theorem symbolValue?_eq_some_iff {c : Char} {digit : Nat} :
    symbolValue? c = some digit ↔ digit < 58 ∧ symbol digit = c := by
  constructor
  · intro h
    obtain ⟨hlt, hsymbol, _⟩ := List.idxOf?_eq_some_iff.mp h
    refine ⟨by rwa [length_alphabet] at hlt, ?_⟩
    rw [symbol, List.getD_eq_getElem?_getD, List.getElem?_eq_getElem hlt]
    exact hsymbol
  · rintro ⟨hlt, rfl⟩
    exact symbolValue?_symbol digit hlt

section Reading

variable {α β : Type} {read : α → Option β}

theorem mapM_eq_none_iff {as : List α} : as.mapM read = none ↔ ∃ a ∈ as, read a = none := by
  induction as with
  | nil => simp
  | cons a as ih =>
    simp only [List.mapM_cons, List.mem_cons, exists_eq_or_imp, ← ih]
    cases read a <;> cases as.mapM read <;> simp

theorem mapM_eq_some_iff {write : β → α} {good : β → Prop}
    (h : ∀ {a b}, read a = some b ↔ good b ∧ write b = a) {as : List α} {bs : List β} :
    as.mapM read = some bs ↔ (∀ b ∈ bs, good b) ∧ bs.map write = as := by
  induction as generalizing bs with
  | nil => cases bs <;> simp
  | cons a as ih =>
    rw [List.mapM_cons]
    cases bs with
    | nil => simp [Option.bind_eq_some_iff]
    | cons b bs =>
      simp only [Option.bind_eq_bind, Option.bind_eq_some_iff, Option.pure_def, Option.some.injEq,
        List.cons.injEq, h, ih, List.forall_mem_cons, List.map_cons]
      constructor
      · rintro ⟨_, ⟨hgood, hwrite⟩, _, ⟨hrest, hwritten⟩, rfl, rfl⟩
        exact ⟨⟨hgood, hrest⟩, hwrite, hwritten⟩
      · rintro ⟨⟨hgood, hrest⟩, hwrite, hwritten⟩
        exact ⟨b, ⟨hgood, hwrite⟩, bs, ⟨hrest, hwritten⟩, rfl, rfl⟩

end Reading

theorem mapM_symbolValue?_eq_some_iff {text : List Char} {digits : List Nat} :
    text.mapM symbolValue? = some digits ↔
      (∀ digit ∈ digits, digit < 58) ∧ digits.map symbol = text :=
  mapM_eq_some_iff symbolValue?_eq_some_iff

theorem decode?_eq_none_iff {text : List Char} :
    decode? text = none ↔ ∃ c ∈ text, c ∉ alphabet := by
  simp only [decode?, Option.map_eq_none_iff, mapM_eq_none_iff, symbolValue?, List.idxOf?_eq_none_iff]

theorem map_toNat_map_ofNat {digits : List Nat} (h : ∀ digit ∈ digits, digit < 256) :
    (digits.map UInt8.ofNat).map UInt8.toNat = digits := by
  rw [List.map_map]
  have hkept : ∀ digit ∈ digits, (UInt8.toNat ∘ UInt8.ofNat) digit = id digit :=
    fun digit hdigit => UInt8.toNat_ofNat_of_lt (h digit hdigit)
  rw [List.map_congr_left hkept, List.map_id]

theorem map_symbol_takeWhile_zero (bytes : Bytes) :
    ((bytes.map UInt8.toNat).takeWhile (· = 0)).map symbol =
      (bytes.takeWhile (· = 0)).map fun _ => '1' := by
  induction bytes with
  | nil => rfl
  | cons byte bytes ih =>
    by_cases hbyte : byte = 0
    · simpa [hbyte, symbol_zero] using ih
    · have hdigit : byte.toNat ≠ 0 := fun h => hbyte (UInt8.toNat_inj.mp h)
      simp [hbyte, hdigit]

theorem map_ofNat_takeWhile_zero {digits : List Nat} (h : ∀ digit ∈ digits, digit < 58) :
    (digits.takeWhile (· = 0)).map UInt8.ofNat =
      ((digits.map symbol).takeWhile (· = '1')).map fun _ => 0 := by
  induction digits with
  | nil => rfl
  | cons digit digits ih =>
    have hone := symbol_eq_one_iff (h digit List.mem_cons_self)
    have hrest := ih fun d hd => h d (List.mem_cons_of_mem _ hd)
    by_cases hdigit : digit = 0
    · have hsymbol : symbol digit = '1' := hone.mpr hdigit
      rw [List.map_cons, List.takeWhile_cons_of_pos (by simpa), List.takeWhile_cons_of_pos (by simpa),
        List.map_cons, List.map_cons, hrest, hdigit]
      rfl
    · simp [hdigit, hone]

theorem encode_eq_rebase (bytes : Bytes) :
    encode bytes = (Positional.rebase 256 58 (bytes.map UInt8.toNat)).map symbol := by
  have hlt : ∀ digit ∈ numeral bytes, digit < 58 :=
    Positional.pushAll_lt (by decide) 256 (by decide) _
  have hvalue : Positional.value 58 (numeral bytes) =
      Positional.value 256 (bytes.map UInt8.toNat) := by
    rw [numeral, Positional.value_pushAll (by decide)]
    simp
  rw [encode, Positional.rebase, List.map_append, map_symbol_takeWhile_zero,
    Positional.dropWhile_zero (by decide) hlt, hvalue]

theorem decode?_map_symbol {digits : List Nat} (h : ∀ digit ∈ digits, digit < 58) :
    decode? (digits.map symbol) = some ((Positional.rebase 58 256 digits).map UInt8.ofNat) := by
  have hread : (digits.map symbol).mapM symbolValue? = some digits :=
    mapM_symbolValue?_eq_some_iff.mpr ⟨h, rfl⟩
  rw [decode?, hread, Option.map_some, Positional.rebase, List.map_append,
    map_ofNat_takeWhile_zero h, Positional.pushAll_nil (by decide) (by decide)]

theorem decode?_encode (bytes : Bytes) : decode? (encode bytes) = some bytes := by
  have hbytes : ∀ digit ∈ bytes.map UInt8.toNat, digit < 256 := by
    intro digit hdigit
    obtain ⟨byte, _, rfl⟩ := List.mem_map.mp hdigit
    exact byte.toNat_lt
  rw [encode_eq_rebase, decode?_map_symbol (Positional.rebase_lt (by decide) _ _),
    Positional.rebase_rebase (by decide) (by decide) hbytes, List.map_map]
  simp [Function.comp_def]

/-- A text is read exactly as the bytes whose text it is. -/
theorem decode?_eq_some_iff {text : List Char} {bytes : Bytes} :
    decode? text = some bytes ↔ encode bytes = text := by
  constructor
  · intro h
    obtain ⟨digits, hread, _⟩ := Option.map_eq_some_iff.mp h
    obtain ⟨hlt, rfl⟩ := mapM_symbolValue?_eq_some_iff.mp hread
    rw [decode?_map_symbol hlt] at h
    cases h
    rw [encode_eq_rebase, map_toNat_map_ofNat (Positional.rebase_lt (by decide) _ _),
      Positional.rebase_rebase (by decide) (by decide) hlt]
  · rintro rfl
    exact decode?_encode bytes

end Paymaster.Base58
