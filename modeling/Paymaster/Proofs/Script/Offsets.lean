import Paymaster.Proofs.Script.Grammar
/-!
# Script forms by offsets

A parser may test the length of a script and then read single bytes and slices at fixed
offsets. Such reads fail outside the script. Written that way, with every read that can
fail, the forms of scripts come out the same and no read ever fails.
-/
namespace Paymaster.Script

/-- A read that reached an offset outside the script. -/
structure OutOfBounds where
  offset : Nat

def byteAt (script : Bytes) (offset : Nat) : Except OutOfBounds UInt8 :=
  match script[offset]? with
  | some b => .ok b
  | none => .error ⟨offset⟩

/-- Compares single bytes from an offset on and stops at the first other one. -/
def standsAt (script : Bytes) (offset : Nat) : Bytes → Except OutOfBounds Bool
  | [] => .ok true
  | b :: bs => do
    let read ← byteAt script offset
    if read = b then standsAt script (offset + 1) bs else return false

def slice (script : Bytes) (start count : Nat) : Except OutOfBounds (FixedBytes count) :=
  if h : start + count ≤ script.length then
    .ok ⟨(script.drop start).take count, by rw [List.length_take, List.length_drop]; omega⟩
  else .error ⟨start + count⟩

/-- The body of a frame, by the length of the script, the bytes around the body and its slice. -/
def framedAt (frame : Bytes × Bytes) (width : Nat) (script : Bytes) :
    Except OutOfBounds (Option (FixedBytes width)) :=
  if script.length = frame.1.length + width + frame.2.length then do
    if ← standsAt script 0 frame.1 then
      if ← standsAt script (frame.1.length + width) frame.2 then
        let body ← slice script frame.1.length width
        return some body
      else return none
    else return none
  else return none

/-- The header bytes of public keys of one size. -/
def headersOf (size : UInt8) : List UInt8 :=
  if size = 33 then [0x02, 0x03] else [0x04, 0x06, 0x07]

/-- A public key, by the first byte, the length, the last byte and the header of the key. -/
def publicKeyAt (script : Bytes) : Except OutOfBounds (Option Bytes) :=
  match script.head? with
  | none => return none
  | some size =>
    if (size = 33 ∨ size = 65) ∧ script.length = size.toNat + 2 then do
      let last ← byteAt script (script.length - 1)
      if last = opCheckSig then
        let key ← slice script 1 size.toNat
        let header ← byteAt key.bytes 0
        return if header ∈ headersOf size then some key.bytes else none
      else return none
    else return none

def formAt (script : Bytes) : Except OutOfBounds Form := do
  match ← framedAt keyHashFrame 20 script with
  | some hash => return .keyHash hash
  | none =>
    match ← framedAt scriptHashFrame 20 script with
    | some hash => return .scriptHash hash
    | none =>
      match ← publicKeyAt script with
      | some key => return .publicKey key
      | none => return .other

private theorem byteAt_of_lt {script : Bytes} {offset : Nat} (h : offset < script.length) :
    byteAt script offset = .ok script[offset] := by
  rw [byteAt, List.getElem?_eq_getElem h]

private theorem standsAt_eq {script bytes : Bytes} {offset : Nat}
    (h : offset + bytes.length ≤ script.length) :
    standsAt script offset bytes =
      .ok (decide ((script.drop offset).take bytes.length = bytes)) := by
  induction bytes generalizing offset with
  | nil => simp [standsAt]
  | cons b bs ih =>
    rw [List.length_cons] at h
    have hoffset : offset < script.length := by omega
    rw [standsAt, byteAt_of_lt hoffset, List.drop_eq_getElem_cons hoffset, List.length_cons,
      List.take_succ_cons]
    change (if script[offset] = b then _ else _) = _
    by_cases hsame : script[offset] = b
    · rw [if_pos hsame, ih (by omega)]
      simp [hsame]
    · rw [if_neg hsame]
      simp [hsame, pure, Except.pure]

private theorem slice_eq (script : Bytes) (start count : Nat) (h : start + count ≤ script.length) :
    ∃ body, slice script start count = .ok body ∧ body.bytes = (script.drop start).take count :=
  ⟨_, dif_pos h, rfl⟩

private theorem framedAt_eq (frame : Bytes × Bytes) (width : Nat) (script : Bytes) :
    framedAt frame width script = .ok (framed? frame width script) := by
  rw [framedAt]
  by_cases hlength : script.length = frame.1.length + width + frame.2.length
  · have hbefore : standsAt script 0 frame.1 =
        .ok (decide (script.take frame.1.length = frame.1)) :=
      standsAt_eq (by omega)
    have hrest : (script.drop frame.1.length).drop width =
        (script.drop (frame.1.length + width)).take frame.2.length := by
      rw [List.drop_drop, List.take_of_length_le (by rw [List.length_drop]; omega)]
    have hafter : standsAt script (frame.1.length + width) frame.2 =
        .ok (decide ((script.drop frame.1.length).drop width = frame.2)) := by
      rw [hrest]
      exact standsAt_eq (by omega)
    obtain ⟨body, hslice, hbody⟩ := slice_eq script frame.1.length width (by omega)
    rw [if_pos hlength, hbefore, hafter, hslice, framed?, ← hbody, FixedBytes.ofBytes?_bytes]
    by_cases hfront : script.take frame.1.length = frame.1
    · by_cases hback : (script.drop frame.1.length).drop width = frame.2
      · rw [decide_eq_true hfront, decide_eq_true hback, if_pos ⟨hfront, hback⟩]
        rfl
      · rw [decide_eq_true hfront, decide_eq_false hback, if_neg fun h => hback h.2]
        rfl
    · rw [decide_eq_false hfront, if_neg fun h => hfront h.1]
      rfl
  · have hnone : framed? frame width script = none := by
      cases h : framed? frame width script with
      | none => rfl
      | some body =>
        obtain rfl := framed?_eq_some_iff.mp h
        rw [inFrame, List.length_append, List.length_append, body.length_bytes] at hlength
        exact absurd rfl hlength
    rw [if_neg hlength, hnone]
    rfl

private theorem exists_body_of_head {script : Bytes} {size : UInt8} (hhead : script.head? = some size)
    (hlength : script.length = size.toNat + 2) :
    ∃ (body : FixedBytes size.toNat) (last : UInt8), script = size :: (body.bytes ++ [last]) := by
  obtain ⟨rest, rfl⟩ := List.head?_eq_some_iff.mp hhead
  rw [List.length_cons] at hlength
  have hbody : (rest.take size.toNat).length = size.toNat := by
    rw [List.length_take]
    omega
  have hlast : (rest.drop size.toNat).length = 1 := by
    rw [List.length_drop]
    omega
  obtain ⟨last, hdrop⟩ := List.length_eq_one_iff.mp hlast
  exact ⟨⟨_, hbody⟩, last, by rw [← hdrop, List.take_append_drop]⟩

private theorem isPublicKey_iff {size : UInt8} (hsize : size = 33 ∨ size = 65)
    (body : FixedBytes size.toNat) :
    IsPublicKey body.bytes ↔ body.bytes.head?.any (· ∈ headersOf size) = true := by
  have hlength := body.length_bytes
  rcases hsize with rfl | rfl
  · simp [IsPublicKey, headersOf, hlength]
  · simp [IsPublicKey, headersOf, hlength]

private theorem eq_payToPublicKey_iff {size last : UInt8} {body : FixedBytes size.toNat}
    {key : Bytes} :
    size :: (body.bytes ++ [last]) = payToPublicKey key ↔ body.bytes = key ∧ last = opCheckSig := by
  have hkey : payToPublicKey key = UInt8.ofNat key.length :: (key ++ [opCheckSig]) := rfl
  rw [hkey, List.cons.injEq]
  constructor
  · rintro ⟨_, h⟩
    simpa using h
  · rintro ⟨rfl, rfl⟩
    rw [body.length_bytes, UInt8.ofNat_toNat]
    exact ⟨rfl, rfl⟩

private theorem head_of_payToPublicKey {key : Bytes} (hkey : IsPublicKey key) {size : UInt8}
    (hhead : (payToPublicKey key).head? = some size) :
    (size = 33 ∨ size = 65) ∧ (payToPublicKey key).length = size.toNat + 2 := by
  rw [head?_payToPublicKey, Option.some.injEq] at hhead
  have hlength : (payToPublicKey key).length = key.length + 2 := by
    simp [payToPublicKey, inFrame, publicKeyFrame]
  rw [hlength]
  subst hhead
  rcases hkey with ⟨hsize, _⟩ | ⟨hsize, _⟩
  · rw [hsize]
    decide
  · rw [hsize]
    decide

private theorem reads_publicKey {size : UInt8} (body : FixedBytes size.toNat) (last : UInt8) :
    let script := size :: (body.bytes ++ [last])
    byteAt script (script.length - 1) = .ok last ∧ slice script 1 size.toNat = .ok body := by
  intro script
  have hlength : script.length = size.toNat + 2 := by
    simp [script, body.length_bytes]
  refine ⟨?_, ?_⟩
  · rw [byteAt_of_lt (by omega)]
    simp [script]
  · obtain ⟨other, hslice, hother⟩ := slice_eq script 1 size.toNat (by omega)
    rw [hslice]
    apply congrArg
    apply FixedBytes.bytes_inj
    rw [hother]
    exact List.take_left' body.length_bytes

private theorem publicKeyAt_of_body {size : UInt8} (hsize : size = 33 ∨ size = 65)
    (body : FixedBytes size.toNat) (last : UInt8) :
    publicKeyAt (size :: (body.bytes ++ [last])) =
      .ok (if last = opCheckSig ∧ body.bytes.head?.any (· ∈ headersOf size) = true then
        some body.bytes else none) := by
  obtain ⟨hlast, hslice⟩ := reads_publicKey body last
  have hlength : (size :: (body.bytes ++ [last])).length = size.toNat + 2 := by
    simp [body.length_bytes]
  have hfirst : 0 < body.bytes.length := by
    rw [body.length_bytes]
    rcases hsize with rfl | rfl <;> decide
  have hheader : body.bytes.head? = some body.bytes[0] := by
    rw [List.head?_eq_getElem?, List.getElem?_eq_getElem hfirst]
  rw [publicKeyAt, List.head?_cons]
  dsimp only
  rw [if_pos ⟨hsize, hlength⟩, hlast, hslice, hheader]
  change (if last = opCheckSig then byteAt body.bytes 0 >>= _ else _) = _
  rw [byteAt_of_lt hfirst]
  by_cases hcheck : last = opCheckSig
  · rw [if_pos hcheck]
    simp [hcheck, bind, Except.bind, pure, Except.pure]
  · rw [if_neg hcheck, if_neg fun h => hcheck h.1]
    rfl

/-- The reads give a result, and it is the key of a script that pays to a public key. -/
private theorem publicKeyAt_spec (script : Bytes) :
    ∃ result, publicKeyAt script = .ok result ∧
      ∀ key, result = some key ↔ IsPublicKey key ∧ script = payToPublicKey key := by
  cases hhead : script.head? with
  | none =>
    refine ⟨none, by rw [publicKeyAt, hhead]; rfl, fun key => iff_of_false nofun ?_⟩
    rintro ⟨_, rfl⟩
    cases hhead
  | some size =>
    by_cases hsize : (size = 33 ∨ size = 65) ∧ script.length = size.toNat + 2
    · obtain ⟨body, last, rfl⟩ := exists_body_of_head hhead hsize.2
      refine ⟨_, publicKeyAt_of_body hsize.1 body last, fun key => ?_⟩
      rw [eq_payToPublicKey_iff, Option.ite_none_right_eq_some, Option.some.injEq,
        ← isPublicKey_iff hsize.1 body]
      constructor
      · rintro ⟨⟨hcheck, hpublic⟩, rfl⟩
        exact ⟨hpublic, rfl, hcheck⟩
      · rintro ⟨hpublic, rfl, hcheck⟩
        exact ⟨⟨hcheck, hpublic⟩, rfl⟩
    · refine ⟨none, by rw [publicKeyAt, hhead]; exact if_neg hsize, fun key =>
        iff_of_false nofun ?_⟩
      rintro ⟨hkey, rfl⟩
      exact hsize (head_of_payToPublicKey hkey hhead)

private theorem publicKeyAt_eq (script : Bytes) : publicKeyAt script = .ok (publicKey? script) := by
  obtain ⟨result, hresult, hkeys⟩ := publicKeyAt_spec script
  rw [hresult]
  apply congrArg
  apply Option.ext
  intro key
  rw [hkeys, publicKey?_eq_some_iff]

/-- Reading a script at fixed offsets never leaves it, and finds its form. -/
theorem formAt_eq (script : Bytes) : formAt script = .ok (form script) := by
  rw [formAt, form, framedAt_eq, framedAt_eq, publicKeyAt_eq]
  cases framed? keyHashFrame 20 script with
  | some hash => rfl
  | none =>
    cases framed? scriptHashFrame 20 script with
    | some hash => rfl
    | none => cases publicKey? script <;> rfl

end Paymaster.Script
