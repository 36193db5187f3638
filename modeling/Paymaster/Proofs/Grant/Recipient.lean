import Paymaster.Grant
/-!
# Recognising the recipient of grants

A script is searched in its hexadecimal text. Bytes that occur in a script occur
in its text, so every script that embeds the recipient's key hash is recognised.
-/
namespace Paymaster

namespace Hex

private theorem digits_append (left right : Bytes) :
    digits (left ++ right) = digits left ++ digits right :=
  List.flatMap_append

private theorem digits_infix {part bytes : Bytes} (h : part <:+: bytes) :
    digits part <:+: digits bytes := by
  obtain ⟨left, right, rfl⟩ := h
  exact ⟨digits left, digits right, by rw [digits_append, digits_append]⟩

end Hex

namespace Grant

theorem recipientId_eq_ofBytes : recipientId = Hex.ofBytes recipient.bytes := by
  decide

theorem namesRecipient_ofBytes_iff {script : Bytes} :
    namesRecipient (Hex.ofBytes script) = true ↔ Hex.digits recipient.bytes <:+: Hex.digits script := by
  rw [namesRecipient, recipientId_eq_ofBytes, occursIn_iff, Hex.ofBytes, Hex.ofBytes,
    String.toList_ofList, String.toList_ofList]

theorem namesRecipient_of_infix {script : Bytes} (h : recipient.bytes <:+: script) :
    namesRecipient (Hex.ofBytes script) = true :=
  namesRecipient_ofBytes_iff.mpr (Hex.digits_infix h)

end Grant

end Paymaster
