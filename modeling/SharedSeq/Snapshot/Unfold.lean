import SharedSeq.Snapshot
import SharedSeq.Store

/-!
# Unfoldings

`Store.Unfolds` says that a snapshot is what a value holds, without saying how to find it: scalars and
bytes are the same, and the items of a list are what its elements hold, in order.
-/

namespace SharedSeq.Store

mutual

/-- The snapshot is what the value holds. -/
inductive Unfolds (s : Store) : Value → Snapshot → Prop
  | int (n : Int32) : Unfolds s (.int n) (.int n)
  | bool (b : Bool) : Unfolds s (.bool b) (.bool b)
  | string (id : StringId) : Unfolds s (.string id) (.string (s.string id).bytes)
  | list {id : ListId} {ts : List Snapshot} : UnfoldsAll s (s.items id) ts → Unfolds s (.list id) (.list ts)

/-- The snapshots are what the values hold, one by one. -/
inductive UnfoldsAll (s : Store) : List Value → List Snapshot → Prop
  | nil : UnfoldsAll s [] []
  | cons {v : Value} {t : Snapshot} {vs : List Value} {ts : List Snapshot} :
    Unfolds s v t → UnfoldsAll s vs ts → UnfoldsAll s (v :: vs) (t :: ts)

end

end SharedSeq.Store
