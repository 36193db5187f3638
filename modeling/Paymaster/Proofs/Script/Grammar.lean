import Paymaster.Proofs.Script.Form
/-!
# The grammar of scripts

Each standard form stands for one way to put a script together. A script is recognised
by a form exactly if it was put together in this way; so the forms exclude each other,
and a destination tells which scripts pay to it.
-/
namespace Paymaster.Script

/-- The scripts of each standard form. -/
inductive HasForm : Bytes → Form → Prop
  | keyHash (hash : Hash160) : HasForm (payToKeyHash hash) (.keyHash hash)
  | scriptHash (hash : Hash160) : HasForm (payToScriptHash hash) (.scriptHash hash)
  | publicKey {key : Bytes} : IsPublicKey key → HasForm (payToPublicKey key) (.publicKey key)

private theorem publicKeyOf?_eq_some_iff {size : UInt8} {headers : List UInt8} {script key : Bytes} :
    publicKeyOf? size headers script = some key ↔
      key.length = size.toNat ∧ key.head?.any (· ∈ headers) ∧
        script = inFrame (publicKeyFrame size) key := by
  constructor
  · intro h
    rw [publicKeyOf?] at h
    split at h
    · next body hbody =>
      split at h
      · next hheader =>
        cases h
        exact ⟨body.length_bytes, hheader, framed?_eq_some_iff.mp hbody⟩
      · cases h
    · cases h
  · rintro ⟨hlength, hheader, rfl⟩
    exact publicKeyOf?_inFrame hlength hheader

theorem publicKey?_eq_some_iff {script key : Bytes} :
    publicKey? script = some key ↔ IsPublicKey key ∧ script = payToPublicKey key := by
  constructor
  · intro h
    rw [publicKey?, Option.or_eq_some_iff] at h
    rcases h with h | ⟨_, h⟩
    · obtain ⟨hlength, hheader, rfl⟩ := publicKeyOf?_eq_some_iff.mp h
      refine ⟨.inl ⟨hlength, hheader⟩, ?_⟩
      rw [payToPublicKey, hlength]
      rfl
    · obtain ⟨hlength, hheader, rfl⟩ := publicKeyOf?_eq_some_iff.mp h
      refine ⟨.inr ⟨hlength, hheader⟩, ?_⟩
      rw [payToPublicKey, hlength]
      rfl
  · rintro ⟨hkey, rfl⟩
    exact publicKey?_payToPublicKey hkey

theorem form_payToScriptHash (hash : Hash160) : form (payToScriptHash hash) = .scriptHash hash := by
  have hhead : (payToScriptHash hash).head? = some opHash160 := rfl
  have hkeyHash : framed? keyHashFrame 20 (payToScriptHash hash) = none := by
    apply framed?_eq_none_of_head _ rfl
    rw [hhead]
    decide
  have hframed : framed? scriptHashFrame 20 (payToScriptHash hash) = some hash :=
    framed?_eq_some_iff.mpr rfl
  rw [form, hkeyHash, hframed]

theorem HasForm.form_eq {script : Bytes} {f : Form} (h : HasForm script f) : form script = f := by
  cases h with
  | keyHash hash => exact form_payToKeyHash hash
  | scriptHash hash => exact form_payToScriptHash hash
  | publicKey hkey => exact form_payToPublicKey hkey

/-- A script was put together in the way of its form, unless it has no standard form. -/
theorem hasForm_or_other (script : Bytes) : HasForm script (form script) ∨ form script = .other := by
  rw [form]
  split
  · next hash hhash =>
    obtain rfl := framed?_eq_some_iff.mp hhash
    exact .inl (.keyHash hash)
  · split
    · next hash hhash =>
      obtain rfl := framed?_eq_some_iff.mp hhash
      exact .inl (.scriptHash hash)
    · split
      · next key hkey =>
        obtain ⟨hpublic, rfl⟩ := publicKey?_eq_some_iff.mp hkey
        exact .inl (.publicKey hpublic)
      · exact .inr rfl

private theorem hasForm_of_form_eq {script : Bytes} {f : Form} (h : form script = f)
    (hf : f ≠ .other) :
    HasForm script f := by
  subst h
  exact (hasForm_or_other script).resolve_right hf

theorem HasForm.unique {script : Bytes} {f g : Form} (hf : HasForm script f) (hg : HasForm script g) :
    f = g :=
  hf.form_eq.symm.trans hg.form_eq

variable {keyHash : Bytes → Hash160} {script : Bytes}

theorem destination?_payToScriptHash (keyHash : Bytes → Hash160) (hash : Hash160) :
    destination? keyHash (payToScriptHash hash) = some (.script hash) := by
  rw [destination?, form_payToScriptHash]

/-- A script with a destination has a standard form, and the form says which destination. -/
private theorem exists_hasForm_of_destination? {destination : Destination}
    (h : destination? keyHash script = some destination) :
    (∃ hash, HasForm script (.keyHash hash) ∧ destination = .key hash) ∨
    (∃ hash, HasForm script (.scriptHash hash) ∧ destination = .script hash) ∨
    ∃ key, HasForm script (.publicKey key) ∧ destination = .key (keyHash key) := by
  rw [destination?] at h
  cases hform : form script with
  | publicKey key =>
    rw [hform] at h
    cases h
    exact .inr (.inr ⟨key, hasForm_of_form_eq hform (by simp), rfl⟩)
  | keyHash hash =>
    rw [hform] at h
    cases h
    exact .inl ⟨hash, hasForm_of_form_eq hform (by simp), rfl⟩
  | scriptHash hash =>
    rw [hform] at h
    cases h
    exact .inr (.inl ⟨hash, hasForm_of_form_eq hform (by simp), rfl⟩)
  | other =>
    rw [hform] at h
    cases h

theorem destination?_eq_key_iff {hash : Hash160} :
    destination? keyHash script = some (.key hash) ↔
      script = payToKeyHash hash ∨
        ∃ key, IsPublicKey key ∧ script = payToPublicKey key ∧ hash = keyHash key := by
  constructor
  · intro h
    rcases exists_hasForm_of_destination? h with ⟨_, hform, heq⟩ | ⟨_, _, heq⟩ | ⟨key, hform, heq⟩
    · cases heq
      cases hform
      exact .inl rfl
    · cases heq
    · cases heq
      cases hform with
      | publicKey hkey => exact .inr ⟨key, hkey, rfl, rfl⟩
  · rintro (rfl | ⟨key, hkey, rfl, rfl⟩)
    · exact destination?_payToKeyHash keyHash hash
    · exact destination?_payToPublicKey keyHash hkey

theorem destination?_eq_script_iff {hash : Hash160} :
    destination? keyHash script = some (.script hash) ↔ script = payToScriptHash hash := by
  constructor
  · intro h
    rcases exists_hasForm_of_destination? h with ⟨_, _, heq⟩ | ⟨_, hform, heq⟩ | ⟨_, _, heq⟩
    · cases heq
    · cases heq
      cases hform
      rfl
    · cases heq
  · rintro rfl
    exact destination?_payToScriptHash keyHash hash

theorem destination?_toScript (keyHash : Bytes → Hash160) (destination : Destination) :
    destination? keyHash destination.toScript = some destination := by
  cases destination with
  | key hash => exact destination?_payToKeyHash keyHash hash
  | script hash => exact destination?_payToScriptHash keyHash hash

theorem toScript_eq_iff {destination : Destination}
    (h : destination? keyHash script = some destination) :
    destination.toScript = script ↔ ¬ ∃ key, IsPublicKey key ∧ script = payToPublicKey key := by
  constructor
  · rintro rfl ⟨key, hkey, hscript⟩
    have hform : HasForm destination.toScript (.publicKey key) := hscript ▸ .publicKey hkey
    cases destination with
    | key hash => cases hform.unique (.keyHash hash)
    | script hash => cases hform.unique (.scriptHash hash)
  · intro hother
    rcases exists_hasForm_of_destination? h with ⟨_, hform, rfl⟩ | ⟨_, hform, rfl⟩ | ⟨key, hform, _⟩
    · cases hform
      rfl
    · cases hform
      rfl
    · cases hform with
      | publicKey hkey => exact absurd ⟨key, hkey, rfl⟩ hother

end Paymaster.Script
