import Relaycast.Redrive.Written

/-!
# A traversal of the candidates

A traversal begins with a call that finds no high mark of its lane and ends with one that leaves an
empty cursor.  Between them the calls read the pages of a traversal by key: the high mark is its
fence, and what is saved is the key of the last row (`replies_eq_pagesOf`).

Nothing is skipped and nothing comes twice, whatever becomes of the table between the calls.  Rows
that arrive above the mark do not count for the length of a traversal; rows that arrive below it do,
so that rows which keep arriving there keep it going (`not_ended_of_arrivals`).
-/

namespace Redrive

open Relational

section Numbers

variable {ν : Type} {T : CursorText ν} {ofInt : ℤ → ν} {lane : Lane}

lemma saved_stringify (cursor : Cursor ν) :
    Lane.saved T (some (T.stringify cursor)) = cursor := by
  simp [Lane.saved, T.parse_stringify]

@[simp] lemma length_position (row : Delivery) :
    (lane.position ofInt row).length = lane.width := by
  cases hretry : lane.retry <;> simp [Lane.position, Lane.width, hretry, Position.length]

lemma id_eq_of_position_eq {row row' : Delivery}
    (h : lane.position ofInt row = lane.position ofInt row') : row.id = row'.id := by
  unfold Lane.position at h
  split at h
  · exact (Position.triple.inj h).2.2
  · exact (Position.pair.inj h).2

end Numbers

variable {ν : Type} [LinearOrder ν] (T : CursorText ν) (ofInt : ℤ → ν) (lane : Lane)

/-! ## What is claimed -/

/-- Calls from one that finds no high mark of the lane, none of which but the last ends the
traversal. -/
structure Traversal (text : Option String) (calls : List Call) : Prop where
  fresh : lane.marked (Lane.saved T text) = false
  positive : ∀ c ∈ calls, 0 < c.limit
  unended : ∀ reply ∈ (lane.replies T ofInt text calls).dropLast, reply.cursor ≠ .empty

/-- The high mark of a traversal that begins with these calls. -/
def mark : List Call → Option (Position ν)
  | [] => none
  | c :: _ => (lastRow (lane.order ofInt) (lane.rows c)).map (lane.position ofInt)

/-- Everything the calls examine. -/
def examined (text : Option String) (calls : List Call) : List Delivery :=
  (lane.replies T ofInt text calls).flatMap (·.examined)

/-- The key of a row is not above the high mark. -/
def BelowMark (calls : List Call) (row : Delivery) : Prop :=
  ∃ high, mark ofInt lane calls = some high ∧ lane.order ofInt row ≤ high.key

/-- What holds of a traversal. -/
structure Traversed (text : Option String) (calls : List Call) : Prop where
  /-- No key is examined twice. -/
  once : ((examined T ofInt lane text calls).map (lane.position ofInt)).Nodup
  /-- A row that stays as it is, up to the high mark, is examined once by a traversal that has
  ended. -/
  complete : ∀ reply, (lane.replies T ofInt text calls).getLast? = some reply →
    reply.cursor = .empty → ∀ row, (∀ c ∈ calls, row ∈ lane.rows c) → BelowMark ofInt lane calls row →
      (examined T ofInt lane text calls).filter (·.id = row.id) = [row]
  /-- A call for every key up to the high mark, and one more. -/
  ends : ∀ positions : List (Position ν), (∀ c ∈ calls, ∀ row ∈ lane.rows c,
    BelowMark ofInt lane calls row → lane.position ofInt row ∈ positions) →
      calls.length ≤ positions.length + 1

/-! ## One call -/

variable {T ofInt lane} {c : Call} {calls : List Call} {text : Option String}
  {after : Option (Position ν)} {high : Position ν}

lemma mem_rows {row : Delivery} :
    row ∈ lane.rows c ↔ row ∈ c.deliveries ∧ lane.holds c.nowSeconds row = true :=
  Table.mem_select

omit [LinearOrder ν] in
/-- The rows of a call have different keys, since they have different ids. -/
lemma nodup_order (c : Call) : ((lane.rows c).map (lane.order ofInt)).Nodup := by
  have hall : (c.deliveries.rows.map (lane.order ofInt)).Nodup :=
    Table.nodup_map c.deliveries fun row row' h =>
      beq_iff_eq.mpr (id_eq_of_position_eq (Position.key_injective h))
  exact hall.sublist (List.filter_sublist.map _)

/-- The window of a call. -/
def window (lane : Lane) (c : Call) : Window Delivery := ⟨lane.rows c, c.limit⟩

/-- With a high mark, a call reads a page up to it. -/
lemma page_eq_pageOf (hafter : ∀ p ∈ after, p.length = lane.width) :
    lane.page ofInt c ⟨after, some high⟩ =
      pageOf (lane.order ofInt) high.key (after.map Position.key) (window lane c) := by
  have hsame : lane.after (⟨after, some high⟩ : Cursor ν) = after := by
    cases after with
    | none => rfl
    | some p => simpa [Lane.after, Option.filter_eq_some_iff] using hafter p rfl
  rw [Lane.page, pageOf, hsame]
  refine congrArg (firstRows _ _) (List.filter_congr fun row _ => ?_)
  cases after <;> simp [Ahead]

/-- A call that does not end the traversal saves the key of its last row. -/
lemma left_cases {page : List Delivery}
    (h : lane.left ofInt c ⟨after, some high⟩ page ≠ .empty) :
    ∃ last, page.getLast? = some last ∧
      lane.left ofInt c ⟨after, some high⟩ page =
        ⟨some (lane.position ofInt last), some high⟩ := by
  unfold Lane.left at h ⊢
  cases hlast : page.getLast? with
  | none =>
    rw [hlast] at h
    exact absurd rfl h
  | some last =>
    rw [hlast] at h
    simp only at h ⊢
    split at h
    · exact absurd rfl h
    · rename_i hopen
      rw [if_neg hopen]
      exact ⟨last, rfl, rfl⟩

/-- A call that ends the traversal has a page that is not full, or reaches the high mark. -/
lemma ends_of_left (hpositive : 0 < c.limit) {page : List Delivery}
    (h : lane.left ofInt c ⟨after, some high⟩ page = .empty) :
    Ends (lane.order ofInt) high.key (window lane c) page := by
  unfold Lane.left at h
  cases hlast : page.getLast? with
  | none =>
    rw [List.getLast?_eq_none_iff] at hlast
    exact .inl (by rw [hlast]; exact hpositive)
  | some last =>
    rw [hlast] at h
    simp only at h
    split at h
    · rename_i hends
      rcases hends with hshort | hfence
      · exact .inl hshort
      · refine .inr ?_
        rw [hlast, Option.map_some, Lane.order, Option.some.inj hfence]
    · exact absurd (congrArg Cursor.after h) (by simp [Cursor.empty])

/-! ## All calls -/

/-- A call that examines nothing ends the traversal. -/
lemma cursor_of_examined_nil
    (h : (lane.readNodeRedriveCandidates T ofInt c text).examined = []) :
    (lane.readNodeRedriveCandidates T ofInt c text).cursor = .empty := by
  have hpage : lane.page ofInt c (lane.started ofInt c (Lane.saved T text)) = [] := h
  change lane.left ofInt c _ (lane.page ofInt c _) = .empty
  rw [hpage]
  rfl

/-- A cursor without a high mark of the lane is as good as none. -/
lemma read_of_unmarked (h : lane.marked (Lane.saved T text) = false) :
    lane.readNodeRedriveCandidates T ofInt c text =
      lane.readNodeRedriveCandidates T ofInt c none := by
  have hnone : lane.marked (Lane.saved T none) = false := rfl
  have hstarted : lane.started ofInt c (Lane.saved T text) =
      lane.started ofInt c (Lane.saved T none) := by
    rw [Lane.started, Lane.started, h, hnone]
    rfl
  rw [Lane.readNodeRedriveCandidates, hstarted]
  rfl

/-! ## All calls -/

/-- From a cursor with a high mark on, the calls read the pages of a traversal, and the one that
ends it has read the last page. -/
lemma replies_eq_pagesOf {cursor : Cursor ν} (hsaved : Lane.saved T text = cursor)
    (hcursor : ∀ c ∈ calls.head?, lane.started ofInt c cursor = ⟨after, some high⟩)
    (hafter : ∀ p ∈ after, p.length = lane.width) (hhigh : high.length = lane.width)
    (hpositive : ∀ c ∈ calls, 0 < c.limit)
    (hopen : ∀ reply ∈ (lane.replies T ofInt text calls).dropLast, reply.cursor ≠ .empty) :
    (lane.replies T ofInt text calls).map (·.examined) =
        pagesOf (lane.order ofInt) high.key (after.map Position.key) (calls.map (window lane)) ∧
      ∀ reply, (lane.replies T ofInt text calls).getLast? = some reply → reply.cursor = .empty →
        ∃ w, (calls.map (window lane)).getLast? = some w ∧
          Ends (lane.order ofInt) high.key w reply.examined := by
  induction calls generalizing text after cursor with
  | nil => exact ⟨rfl, fun reply h => by simp [Lane.replies] at h⟩
  | cons c calls ih =>
    have hstarted := hcursor c rfl
    have hread : lane.readNodeRedriveCandidates T ofInt c text =
        { examined := pageOf (lane.order ofInt) high.key (after.map Position.key) (window lane c)
          ids := (lane.readNodeRedriveCandidates T ofInt c text).ids
          cursor := lane.left ofInt c ⟨after, some high⟩
            (pageOf (lane.order ofInt) high.key (after.map Position.key) (window lane c)) } := by
      simp only [Lane.readNodeRedriveCandidates, hsaved, hstarted, page_eq_pageOf hafter]
    obtain ⟨hlimit, hpositive⟩ := List.forall_mem_cons.mp hpositive
    cases calls with
    | nil =>
      refine ⟨?_, fun reply hreply hempty => ⟨window lane c, rfl, ?_⟩⟩
      · rw [Lane.replies, hread]
        rfl
      · rw [Lane.replies, hread] at hreply
        obtain rfl := Option.some.inj hreply
        exact ends_of_left hlimit hempty
    | cons c' calls =>
      have hnext : (lane.readNodeRedriveCandidates T ofInt c text).cursor ≠ .empty :=
        hopen _ (by simp [Lane.replies])
      rw [hread] at hnext
      obtain ⟨last, hlast, hleft⟩ := left_cases hnext
      have hafter' : nextAfter (lane.order ofInt) (after.map Position.key)
          (pageOf (lane.order ofInt) high.key (after.map Position.key) (window lane c)) =
            (some (lane.position ofInt last)).map Position.key := by
        rw [nextAfter, hlast]
        rfl
      have hsaved' : Lane.saved T
          (some (T.stringify (lane.readNodeRedriveCandidates T ofInt c text).cursor)) =
            ⟨some (lane.position ofInt last), some high⟩ := by
        rw [saved_stringify, hread]
        exact hleft
      obtain ⟨hpages, hend⟩ := ih hsaved' (fun c'' _ => by
          rw [Lane.started, if_pos (by simp [Lane.marked, hhigh])])
        (fun p hp => by rw [← Option.some.inj hp, length_position]) hpositive
        (fun reply hreply => hopen reply (by
          rw [Lane.replies, List.dropLast_cons_of_ne_nil (by simp [Lane.replies])]
          exact List.mem_cons_of_mem _ hreply))
      constructor
      · rw [Lane.replies, List.map_cons, List.map_cons, pagesOf, hpages, hafter', hread]
      · intro reply hreply hempty
        rw [Lane.replies, List.getLast?_cons_of_ne_nil (by simp [Lane.replies])] at hreply
        rw [List.map_cons, List.getLast?_cons_of_ne_nil (by simp)]
        exact hend reply hreply hempty

lemma examined_eq_flatten (text : Option String) (calls : List Call) :
    examined T ofInt lane text calls =
      ((lane.replies T ofInt text calls).map (·.examined)).flatten := by
  rw [examined, List.flatMap_def]

/-- Without rows in the lane, one call is the whole traversal. -/
lemma traversal_of_empty (h : Traversal T ofInt lane text (c :: calls)) (hrows : lane.rows c = []) :
    calls = [] ∧ (lane.readNodeRedriveCandidates T ofInt c text).examined = [] := by
  have hpage : ∀ cursor : Cursor ν, lane.page ofInt c cursor = [] := fun cursor => by
    simp [Lane.page, hrows, firstRows]
  have hexamined : (lane.readNodeRedriveCandidates T ofInt c text).examined = [] := hpage _
  refine ⟨?_, hexamined⟩
  by_contra hne
  have hreplies : lane.replies T ofInt
      (some (T.stringify (lane.readNodeRedriveCandidates T ofInt c text).cursor)) calls ≠ [] := by
    cases calls with
    | nil => exact absurd rfl hne
    | cons c' calls => simp [Lane.replies]
  refine h.unended (lane.readNodeRedriveCandidates T ofInt c text) ?_
    (cursor_of_examined_nil hexamined)
  rw [Lane.replies, List.dropLast_cons_of_ne_nil hreplies]
  exact List.mem_cons_self

/-- A row that was in the table at every call is the only one examined with its id. -/
lemma eq_of_mem_rows {row row' : Delivery} (h : row ∈ lane.rows c) (h' : row' ∈ lane.rows c)
    (hid : row'.id = row.id) : row' = row :=
  Table.eq_of_clash (mem_rows.mp h').1 (mem_rows.mp h).1 (beq_iff_eq.mpr hid)

lemma mem_replies {reply : Reply ν} (h : reply ∈ lane.replies T ofInt text calls) :
    ∃ c text', reply = lane.readNodeRedriveCandidates T ofInt c text' := by
  induction calls generalizing text with
  | nil => exact absurd h List.not_mem_nil
  | cons c calls ih =>
    rw [Lane.replies] at h
    rcases List.mem_cons.mp h with rfl | h
    · exact ⟨c, text, rfl⟩
    · exact ih h

lemma filter_eq_singleton {α : Type} {xs : List α} {p : α → Bool} {a : α} (hnodup : xs.Nodup)
    (ha : a ∈ xs) (hp : p a = true) (hall : ∀ b ∈ xs, p b = true → b = a) : xs.filter p = [a] := by
  apply List.perm_singleton.mp
  rw [List.perm_ext_iff_of_nodup (hnodup.filter _) (List.nodup_singleton a)]
  intro b
  rw [List.mem_filter, List.mem_singleton]
  constructor
  · exact fun ⟨hb, hpb⟩ => hall b hb hpb
  · rintro rfl
    exact ⟨ha, hp⟩

/-- A traversal reads the pages of a traversal by key. -/
lemma Traversal.traversed (h : Traversal T ofInt lane text calls) :
    Traversed T ofInt lane text calls := by
  cases calls with
  | nil =>
    exact ⟨by simp [examined, Lane.replies], fun _ hlast => by simp [Lane.replies] at hlast,
      fun _ _ => by simp⟩
  | cons c calls =>
    cases hlast : lastRow (lane.order ofInt) (lane.rows c) with
    | none =>
      obtain ⟨rfl, hexamined⟩ := traversal_of_empty h (lastRow_eq_none hlast)
      refine ⟨by simp [examined, Lane.replies, hexamined], fun _ _ _ row hrow _ => ?_,
        fun _ _ => by simp⟩
      have hin := hrow c List.mem_cons_self
      rw [lastRow_eq_none hlast] at hin
      exact absurd hin List.not_mem_nil
    | some top =>
      have hmark : mark ofInt lane (c :: calls) = some (lane.position ofInt top) := by
        rw [mark, hlast]
        rfl
      have hstarted : lane.started ofInt c (Lane.saved T text) =
          ⟨none, some (lane.position ofInt top)⟩ := by
        rw [Lane.started, h.fresh, hlast]
        rfl
      have hcursor : ∀ c' ∈ (c :: calls).head?, lane.started ofInt c' (Lane.saved T text) =
          ⟨none, some (lane.position ofInt top)⟩ := fun c' hc' => by
        rw [← Option.some.inj hc', hstarted]
      obtain ⟨hpages, hend⟩ := replies_eq_pagesOf rfl hcursor (by simp) (length_position top)
        h.positive h.unended
      have hnodup : ∀ w ∈ (c :: calls).map (window lane),
          (w.rows.map (lane.order ofInt)).Nodup := by
        intro w hw
        obtain ⟨c', -, rfl⟩ := List.mem_map.mp hw
        exact nodup_order c'
      have hexamined : examined T ofInt lane text (c :: calls) =
          (pagesOf (lane.order ofInt) (lane.position ofInt top).key none
            ((c :: calls).map (window lane))).flatten := by
        rw [examined_eq_flatten, hpages]
        rfl
      have hincreasing : ((examined T ofInt lane text (c :: calls)).map
          (lane.order ofInt)).Pairwise (· < ·) := by
        rw [hexamined]
        exact pairwise_pagesOf hnodup
      have hkeys := hincreasing.imp fun h => h.ne
      refine ⟨?_, ?_, ?_⟩
      · exact List.Nodup.of_map Position.key (by rwa [List.map_map])
      · intro reply hreply hempty row hrow hbelow
        obtain ⟨high, hhigh, hle⟩ := hbelow
        rw [hmark, Option.some.injEq] at hhigh
        subst hhigh
        obtain ⟨w, hw, hends⟩ := hend reply hreply hempty
        have hpage : (pagesOf (lane.order ofInt) (lane.position ofInt top).key none
            ((c :: calls).map (window lane))).getLast? = some reply.examined := by
          have hmap := congrArg List.getLast? hpages
          rw [List.getLast?_map, hreply] at hmap
          exact hmap.symm
        have hrows : ∀ w ∈ (c :: calls).map (window lane), row ∈ w.rows := by
          intro w hw
          obtain ⟨c', hc', rfl⟩ := List.mem_map.mp hw
          exact hrow c' hc'
        have hmem := mem_pagesOf hnodup hrows ⟨by simp, hle⟩ hw hpage hends
        rw [← hexamined] at hmem
        refine filter_eq_singleton (List.Nodup.of_map _ hkeys) hmem (by simp) fun row' hin hid => ?_
        rw [hexamined] at hin
        obtain ⟨-, w', hw', hin'⟩ := ahead_of_mem_pagesOf hin
        obtain ⟨c', hc', rfl⟩ := List.mem_map.mp hw'
        exact eq_of_mem_rows (hrow c' hc') hin' (by simpa using hid)
      · intro positions hpositions
        have hpositions' : ∀ w ∈ (c :: calls).map (window lane), ∀ row ∈ w.rows,
            lane.order ofInt row ≤ (lane.position ofInt top).key →
              lane.order ofInt row ∈ positions.map Position.key := by
          intro w hw row hrow hle
          obtain ⟨c', hc', rfl⟩ := List.mem_map.mp hw
          exact List.mem_map_of_mem (hpositions c' hc' row hrow ⟨_, hmark, hle⟩)
        have hpages' : ∀ page ∈ (pagesOf (lane.order ofInt) (lane.position ofInt top).key none
            ((c :: calls).map (window lane))).dropLast, page ≠ [] := by
          intro page hpage hnil
          change page ∈ (pagesOf _ _ ((none : Option (Position ν)).map Position.key) _).dropLast
            at hpage
          rw [← hpages, ← List.map_dropLast] at hpage
          obtain ⟨reply, hreply, rfl⟩ := List.mem_map.mp hpage
          obtain ⟨c', text', rfl⟩ := mem_replies (List.dropLast_subset _ hreply)
          exact h.unended _ hreply (cursor_of_examined_nil hnil)
        have hle := length_pagesOf_le hnodup hpages' hpositions'
        rwa [List.length_map, List.length_map] at hle

/-- **Whatever becomes of the table between the calls, a traversal examines no key twice, every row
that stays up to the high mark once, and takes at most one call more than there are keys up to the
mark.**  A saved cursor without a high mark of the lane, and one that cannot be read, begins a
traversal. -/
theorem redriveTraversal (T : CursorText ν) (ofInt : ℤ → ν) (lane : Lane) :
    (∀ c text, lane.marked (Lane.saved T text) = false →
      lane.readNodeRedriveCandidates T ofInt c text =
        lane.readNodeRedriveCandidates T ofInt c none) ∧
    ∀ text calls, Traversal T ofInt lane text calls → Traversed T ofInt lane text calls :=
  ⟨fun _ _ h => read_of_unmarked h, fun _ _ h => h.traversed⟩

/-! ## Rows that keep arriving -/

/-- A call, with the cursor it finds. -/
def readFrom (ofInt : ℤ → ν) (lane : Lane) (c : Call) (cursor : Cursor ν) : Reply ν :=
  let cursor := lane.started ofInt c cursor
  let page := lane.page ofInt c cursor
  { examined := page
    ids := (page.filter fun row => row.expiresAt.all (c.nowSeconds < ·)).map (·.id)
    cursor := lane.left ofInt c cursor page }

/-- The cursors, without their texts. -/
def repliesFrom (ofInt : ℤ → ν) (lane : Lane) : Cursor ν → List Call → List (Reply ν)
  | _, [] => []
  | cursor, c :: calls =>
    let reply := readFrom ofInt lane c cursor
    reply :: repliesFrom ofInt lane reply.cursor calls

lemma replies_eq_repliesFrom {text : Option String} :
    lane.replies T ofInt text calls = repliesFrom ofInt lane (Lane.saved T text) calls := by
  induction calls generalizing text with
  | nil => rfl
  | cons c calls ih =>
    rw [Lane.replies, repliesFrom, ih, saved_stringify]
    rfl

/-- A delivery that waits for its first attempt. -/
def waiting (id : String) : Delivery :=
  { id, workspaceId := "w", status := "queued", routeNodeKind := some "ws", nextAttemptAt := none,
    createdAt := 10, expiresAt := none }

def firstAttempts : Lane := { workspaceId := none, retry := false }

/-- A call for one row, of a table of these. -/
def callOn (ids : List String) : Call where
  deliveries := (ids.map waiting).foldl .insertOrIgnore .empty
  limit := 1
  nowSeconds := 20

/-- Before each call but the first a row arrives, behind the last that was examined. -/
def arriving : List Call :=
  [callOn ["a", "z"], callOn ["a", "b", "z"], callOn ["a", "b", "c", "z"],
    callOn ["a", "b", "c", "d", "z"]]

lemma traversal_arriving : Traversal .ofWritten id firstAttempts none arriving where
  fresh := rfl
  positive := by decide
  unended := by
    rw [replies_eq_repliesFrom]
    decide +kernel

/-- **Rows that keep arriving below the mark keep a traversal going**: over two rows, it has not
ended after three calls. -/
theorem not_ended_of_arrivals :
    ¬ ∀ (T : CursorText ℤ) lane c calls, Traversal T id lane none (c :: calls) →
      (c :: calls).length ≤ (lane.rows c).length + 1 := fun h =>
  absurd (h .ofWritten firstAttempts _ _ traversal_arriving) (by decide +kernel)

/-- Two rows, one call each. -/
theorem redriveTraversal_twoRows :
    Traversed .ofWritten id firstAttempts none [callOn ["a", "z"], callOn ["a", "z"]] :=
  (redriveTraversal .ofWritten id firstAttempts).2 none _
    ⟨rfl, by decide, by rw [replies_eq_repliesFrom]; decide +kernel⟩

end Redrive
