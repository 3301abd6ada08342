import Courier.Proofs.Template.Argument
import Courier.Proofs.Text.Utf8

/-! The three views of a value.

Functions take values as bytes, as a text or as a list, and the text is what the other two come to:
what the bytes say to the reader that takes any bytes, and the list with commas between its items
(`decodeLossy_toBytes`, `intercalate_toList`). The list can be told from the text where no item has a
comma of its own, as is so for every argument that is written in a call (`views_agree`). -/

namespace Courier.Template

theorem decodeLossy_bytes (s : String) : Utf8.decodeLossy (Utf8.bytes s) = s := by
  rw [Utf8.decodeLossy, Utf8.bytes, Utf8.lenient_encode, String.ofList_toList]

namespace Value

theorem decodeLossy_toBytes (v : Value) : Utf8.decodeLossy v.toBytes = v.toText := by
  cases v with
  | bytes bs => rfl
  | _ => exact decodeLossy_bytes _

theorem intercalate_toList (v : Value) : ",".intercalate v.toList = v.toText := by
  cases v with
  | list items => rfl
  | _ => exact String.intercalate_singleton

/-- **The views of a value agree.** The text of a value is what its bytes say, and its list with
commas between the items; and the text of an argument, which is its items with commas between them,
gives them back when it is split at its commas. -/
theorem views_agree :
    (∀ v : Value, Utf8.decodeLossy v.toBytes = v.toText ∧ ",".intercalate v.toList = v.toText) ∧
      ∀ raw : String,
        (ofArgument (.parse raw)).toText = ",".intercalate (Argument.parse raw).toList ∧
          Text.split ',' (ofArgument (.parse raw)).toText = (Argument.parse raw).toList := by
  refine ⟨fun v => ⟨v.decodeLossy_toBytes, v.intercalate_toList⟩, fun raw => ⟨?_, ?_⟩⟩
  · exact Argument.toText_ofArgument _
  · rw [Argument.split_toText_parse, Argument.toList_parse]

end Value

end Courier.Template
