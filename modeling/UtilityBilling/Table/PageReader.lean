/-
# Pages in JSON

A list endpoint answers with an object of its items and the total over all pages.
The total may be missing and then counts as zero.
-/

import UtilityBilling.Json.Record
import UtilityBilling.Table.Query

namespace UtilityBilling.Table

open UtilityBilling.Json (Value Shape Read)
open UtilityBilling.Text (Bytes)

/-- A page under construction. -/
structure PageDraft where
  items : Option (List Value) := none
  total : Option UInt64 := none

/-- The fields of a page. -/
def pageShape : Shape PageDraft where
  name := "ListPage"
  fields :=
    [ { name := "items"
        keys := ["items"]
        required := true
        isGiven := fun draft => draft.items.isSome
        read := fun depth rest =>
          (Json.readValues depth rest).map fun (items, r) =>
            ((fun draft => { draft with items := some items }), r) },
      { name := "total"
        keys := ["total"]
        required := false
        isGiven := fun draft => draft.total.isSome
        read := fun _ rest =>
          (Json.readUInt64 rest).map fun (total, r) =>
            ((fun draft => { draft with total := some total }), r) } ]

/-- Reads a page. -/
def readPage (depth : Nat) (rest : Bytes) : Read (Page Value) :=
  (Json.readRecord pageShape {} depth rest).map fun (draft, r) =>
    (⟨draft.items.getD [], draft.total.getD 0⟩, r)

end UtilityBilling.Table
