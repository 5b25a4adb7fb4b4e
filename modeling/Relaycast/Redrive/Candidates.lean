import Relaycast.Relational.Keyset
import Relaycast.Relational.Table
import Mathlib.Data.List.Lex
import Mathlib.Data.Prod.Lex
import Mathlib.Data.String.Basic

/-!
# The candidates of a redrive

`readNodeRedriveCandidates` examines the deliveries that wait for their node, a page with each call:
those that were never attempted in the order of their creation, those to be attempted again in the
order of the next attempt.  The place where the next page begins is kept in a row of
`maintenance_cursors`, together with the greatest key there was when the traversal began.  The row
is a text, which may be damaged.

The numbers of a cursor are those of JSON, of any ordered type; the columns are integers.  A call is
taken as one step, and between two calls the table may become any other.
-/

namespace Redrive

open Relational

/-! ## Cursors -/

/-- `position`: a tuple of a number and a text, or of two numbers and a text. -/
inductive Position (ν : Type)
  | pair (createdAt : ν) (id : String)
  | triple (nextAttemptAt createdAt : ν) (id : String)
  deriving DecidableEq

namespace Position

variable {ν : Type}

/-- `position.length`. -/
def length : Position ν → ℕ
  | pair .. => 2
  | triple .. => 3

/-- What a position is compared by, in SQL: component by component. -/
def key : Position ν → List ν ×ₗ String
  | pair createdAt id => toLex ([createdAt], id)
  | triple nextAttemptAt createdAt id => toLex ([nextAttemptAt, createdAt], id)

lemma key_injective {p q : Position ν} (h : p.key = q.key) : p = q := by
  cases p <;> cases q <;> simp_all [key]

end Position

/-- `cursorSchema`. -/
structure Cursor (ν : Type) where
  after : Option (Position ν)
  high : Option (Position ν)
  deriving DecidableEq

/-- `{}`. -/
def Cursor.empty {ν : Type} : Cursor ν := ⟨none, none⟩

/-- The text of a cursor: `JSON.parse` and `cursorSchema.safeParse`, which have no result for a
damaged text, and `JSON.stringify`. -/
structure CursorText (ν : Type) where
  parse : String → Option (Cursor ν)
  stringify : Cursor ν → String
  parse_stringify : ∀ cursor, parse (stringify cursor) = some cursor

/-! ## Deliveries -/

/-- The columns of a delivery that are read. -/
structure Delivery where
  id : String
  workspaceId : String
  status : String
  routeNodeKind : Option String
  nextAttemptAt : Option ℤ
  createdAt : ℤ
  expiresAt : Option ℤ
  deriving DecidableEq

instance : Keyed Delivery where
  Key := String
  key d := d.id
  clash k k' := k == k'
  clash_comm := text_clash_comm

/-- The deliveries of a workspace, or of all, that were never attempted or are to be attempted
again. -/
structure Lane where
  workspaceId : Option String
  retry : Bool

/-- A call on a lane: the table it finds, and its options. -/
structure Call where
  deliveries : Table Delivery
  limit : ℕ
  nowSeconds : ℤ

/-- What a call examines, what it returns, and the cursor it leaves. -/
structure Reply (ν : Type) where
  examined : List Delivery
  ids : List String
  cursor : Cursor ν
  deriving DecidableEq

namespace Lane

variable {ν : Type} (lane : Lane)

/-- `keys.length`. -/
def width : ℕ := if lane.retry then 3 else 2

/-- `key(row)`. -/
def position (ofInt : ℤ → ν) (row : Delivery) : Position ν :=
  if lane.retry then .triple (ofInt (row.nextAttemptAt.getD 0)) (ofInt row.createdAt) row.id
  else .pair (ofInt row.createdAt) row.id

/-- The literal conditions, and those on the workspace and the time. -/
def holds (nowSeconds : ℤ) (row : Delivery) : Bool :=
  row.status == "queued" &&
    row.routeNodeKind.any ["http_push", "ws", "fleet_ws", "direct_ws"].contains &&
    row.nextAttemptAt.isSome == lane.retry &&
    lane.workspaceId.all (· == row.workspaceId) &&
    (!lane.retry || row.nextAttemptAt.any (· ≤ nowSeconds))

/-- The rows of the lane. -/
def rows (c : Call) : List Delivery := c.deliveries.select (lane.holds c.nowSeconds)

/-- Is there a high mark of the width of the lane? -/
def marked (cursor : Cursor ν) : Bool := cursor.high.any fun high => high.length == lane.width

/-- The last position, if it is one of the lane. -/
def after (cursor : Cursor ν) : Option (Position ν) :=
  cursor.after.filter fun after => after.length == lane.width

variable [LinearOrder ν] (T : CursorText ν) (ofInt : ℤ → ν)

/-- The order of the lane. -/
def order (row : Delivery) : List ν ×ₗ String := (lane.position ofInt row).key

/-- The cursor of a text; there may be no text. -/
def saved (text : Option String) : Cursor ν := (text.bind T.parse).getD .empty

/-- The cursor a call goes by: the saved one, or that of a new traversal. -/
def started (c : Call) (cursor : Cursor ν) : Cursor ν :=
  if lane.marked cursor then cursor
  else ⟨none, (lastRow (lane.order ofInt) (lane.rows c)).map (lane.position ofInt)⟩

/-- The page of a cursor. -/
def page (c : Call) (cursor : Cursor ν) : List Delivery :=
  firstRows (lane.order ofInt) c.limit <| (lane.rows c).filter fun row =>
    (lane.after cursor).all (fun after => after.key < lane.order ofInt row) &&
      cursor.high.all fun high => lane.order ofInt row ≤ high.key

/-- The cursor after a page. -/
def left (c : Call) (cursor : Cursor ν) (page : List Delivery) : Cursor ν :=
  match page.getLast? with
  | none => .empty
  | some last =>
    if page.length < c.limit ∨ some (lane.position ofInt last) = cursor.high then .empty
    else { cursor with after := some (lane.position ofInt last) }

/-- `readNodeRedriveCandidates`, with the text of the cursor it finds.  The text it leaves is that
of the cursor in the reply. -/
def readNodeRedriveCandidates (c : Call) (text : Option String) : Reply ν :=
  let cursor := lane.started ofInt c (saved T text)
  let page := lane.page ofInt c cursor
  { examined := page
    ids := (page.filter fun row => row.expiresAt.all (c.nowSeconds < ·)).map (·.id)
    cursor := lane.left ofInt c cursor page }

/-- A sequence of calls, each of which finds the text that the one before has left. -/
def replies (text : Option String) : List Call → List (Reply ν)
  | [] => []
  | c :: calls =>
    let reply := lane.readNodeRedriveCandidates T ofInt c text
    reply :: replies (some (T.stringify reply.cursor)) calls

end Lane

end Redrive
