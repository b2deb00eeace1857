import KeyspaceLink.Proofs.BatchedRows

/-! Runs of a cursor. Whatever is asked of it and in whatever order, where it stands is told by
the rows it was made of, by how many of them it found, and by whether it came to an end. -/

namespace KeyspaceLink

/-- What a cursor can be made of. -/
inductive RowSource
  | documents (values : List Json)
  | singleColumn (column : Column) (values : List Json)
  | list (values : List Json)
  | flattened (columns : List Column) (rows : List (List Json))
  | ofObjects (columns : List Column) (objects : List Json)
  | empty (columns : List Column)

namespace RowSource

def cursor : RowSource → Cursor
  | documents values => .documents values
  | singleColumn column values => .singleColumn column values
  | list values => .list values
  | flattened columns rows => .flattened columns rows
  | ofObjects columns objects => .ofObjects columns objects
  | empty columns => .empty columns

def columns : RowSource → List Column
  | documents _ | list _ => [resultColumn]
  | singleColumn column _ => [column]
  | flattened columns _ | ofObjects columns _ | empty columns => columns

/-- The rows in order, with a value for each column; what is not given is null. -/
def rows : RowSource → List (List Json)
  | documents values | singleColumn _ values | list values => values.map fun v => [v]
  | flattened columns rows =>
    rows.map fun row => (List.range columns.length).map fun i => row[i]?.getD .null
  | ofObjects columns objects =>
    objects.map fun o => columns.map fun c => (o.get? c.name).getD .null
  | empty _ => []

end RowSource

inductive CursorAct
  | next
  | get (index : Nat)
  | getByName (name : String)
  | remaining
  | close

inductive CursorAnswer
  | moved (found : Bool)
  | read (value : Except Failure Json)
  | counted (rows : Nat)
  | closed

namespace CursorAnswer

def isFound : CursorAnswer → Bool
  | moved found => found
  | _ => false

def isEnd : CursorAnswer → Bool
  | moved found => !found
  | closed => true
  | _ => false

def found (told : List CursorAnswer) : Nat := told.countP isFound

/-- Whether a row was looked for and not found, or the cursor was closed. -/
def ended (told : List CursorAnswer) : Bool := told.any isEnd

theorem found_append (first second : List CursorAnswer) :
    found (first ++ second) = found first + found second := List.countP_append

theorem ended_append (first second : List CursorAnswer) :
    ended (first ++ second) = (ended first || ended second) := List.any_append

theorem found_finds (count : Nat) : found (List.replicate count (.moved true)) = count :=
  List.countP_replicate

theorem ended_finds (count : Nat) : ended (List.replicate count (.moved true)) = false := by
  simp [ended, isEnd]

end CursorAnswer

open CursorAnswer

namespace Cursor

def perform (c : Cursor) : CursorAct → CursorAnswer × Cursor
  | .next => (.moved c.next.1, c.next.2)
  | .get index => (.read (c.get index), c)
  | .getByName name => (.read (c.getByName name), c)
  | .remaining => (.counted c.remaining, c)
  | .close => (.closed, c.close)

def answers : List CursorAct → Cursor → List CursorAnswer
  | [], _ => []
  | act :: more, c => (c.perform act).1 :: (c.perform act).2.answers more

def after (c : Cursor) (acts : List CursorAct) : Cursor :=
  acts.foldl (fun c act => (c.perform act).2) c

end Cursor

/-- Where a cursor of a source stands once it has answered so. -/
structure RowSource.Stands (s : RowSource) (told : List CursorAnswer) (c : Cursor) : Prop where
  columns : c.columns = s.columns
  rows : c.rows = if ended told then [] else s.rows.drop (found told)
  current : c.current = if ended told then none else (s.rows.take (found told)).getLast?
  ended_of_closed : c.closed = true → ended told = true

/-- What can be read from such a cursor, and how it goes on: the next row found is the one
after those found so far, until there is an end. -/
structure RowSource.Protocol (s : RowSource) (told : List CursorAnswer) (c : Cursor) : Prop
    extends s.Stands told c where
  width : ∀ row, row ∈ c.rows ∨ c.current = some row → row.length = c.columns.length
  next_iff : c.next.1 = true ↔ ended told = false ∧ found told < s.rows.length
  exposes : c.next.1 = true → ∃ row, c.next.2.current = some row ∧ s.rows[found told]? = some row
  get_iff : ∀ i, (∃ v, c.get i = .ok v) ↔ c.current ≠ none ∧ i < c.columns.length
  get_eq_ok_iff : ∀ i v, c.get i = .ok v ↔ ∃ row, c.current = some row ∧ row[i]? = some v
  getByName_iff : ∀ name, (∃ v, c.getByName name = .ok v) ↔
    c.current ≠ none ∧ columnIndex? name c.columns ≠ none
  getByName_eq : ∀ name i, columnIndex? name c.columns = some i → c.getByName name = c.get i
  failure : ∀ act e, (c.perform act).1 = .read (.error e) →
    e.kind = .exhausted ∧ (c.perform act).2 = c
  remaining : ∀ count, c.answers (List.replicate count .next) =
    List.replicate (min count c.remaining) (.moved true) ++
      List.replicate (count - c.remaining) (.moved false)
  length_allRows : c.allRows.length = c.remaining
  allRows : ∀ i < c.remaining, (c.after (List.replicate (i + 1) .next)).current = c.allRows[i]?

/-- Closed, it has let go of all rows. -/
def Cursor.Settled (c : Cursor) : Prop := c.closed = true → c.rows = [] ∧ c.current = none

section Cursors

variable {c : Cursor} {name : String} {i : Nat} {v : Json}

theorem columnIndex?_lt {columns : List Column} (h : columnIndex? name columns = some i) :
    i < columns.length := by
  rcases Option.or_eq_some_iff.mp h with h | ⟨-, h⟩ <;>
    exact (List.findIdx?_eq_some_iff_getElem.mp h).1

namespace Cursor

theorem fit_eq (width : Nat) (row : List Json) :
    fit width row = (List.range width).map fun i => row[i]?.getD .null := by
  apply List.ext_getElem
  · simp [length_fit]
  · intro i hi hi'
    rw [length_fit] at hi
    simp only [fit, List.getElem_append, List.getElem_take, List.getElem_replicate,
      List.getElem_map, List.getElem_range, List.length_take]
    split
    · next h => simp [List.getElem?_eq_getElem (show i < row.length by omega)]
    · next h => simp [List.getElem?_eq_none (show row.length ≤ i by omega)]

theorem get_of_none (h : c.current = none) :
    c.get i = .error (.exhausted "Result cursor has no current row") := by
  simp only [get, currentRow, h, bind, Except.bind]

theorem get_of_some {row : List Json} (h : c.current = some row) : c.get i =
    row[i]?.elim (.error (.exhausted ("Column index " ++ toString i ++ " is out of range")))
      .ok := by
  simp only [get, currentRow, h, bind, Except.bind]
  cases row[i]? <;> rfl

theorem getByName_of_none (h : c.current = none) :
    c.getByName name = .error (.exhausted "Result cursor has no current row") := by
  simp only [getByName, currentRow, h, bind, Except.bind]

theorem getByName_of_some {row : List Json} (h : c.current = some row) (name : String) :
    c.getByName name = ((columnIndex? name c.columns).bind (row[·]?)).elim
      (.error (.exhausted ("Column '" ++ name ++ "' does not exist"))) .ok := by
  simp only [getByName, currentRow, h, bind, Except.bind]
  cases Option.bind (columnIndex? name c.columns) (row[·]?) <;> rfl

theorem get_eq_ok_iff : c.get i = .ok v ↔ ∃ row, c.current = some row ∧ row[i]? = some v := by
  cases hcurrent : c.current with
  | none => simp [get_of_none hcurrent]
  | some row =>
    rw [get_of_some hcurrent]
    cases hrow : row[i]? <;> simp [hrow]

theorem kind_of_get {e : Failure} (h : c.get i = .error e) : e.kind = .exhausted := by
  cases hcurrent : c.current with
  | none =>
    rw [get_of_none hcurrent] at h
    cases h
    rfl
  | some row =>
    rw [get_of_some hcurrent] at h
    cases hrow : row[i]? with
    | none =>
      rw [hrow] at h
      cases h
      rfl
    | some v =>
      rw [hrow] at h
      cases h

theorem getByName_of_index (h : columnIndex? name c.columns = some i)
    (hwidth : ∀ row, c.current = some row → row.length = c.columns.length) :
    c.getByName name = c.get i := by
  cases hcurrent : c.current with
  | none => rw [getByName_of_none hcurrent, get_of_none hcurrent]
  | some row =>
    have hi : i < row.length := hwidth row hcurrent ▸ columnIndex?_lt h
    rw [getByName_of_some hcurrent, get_of_some hcurrent, h, Option.bind_some,
      List.getElem?_eq_getElem hi]
    rfl

theorem getByName_of_no_index (h : columnIndex? name c.columns = none) :
    ∃ e, c.getByName name = .error e ∧ e.kind = .exhausted := by
  cases hcurrent : c.current with
  | none => exact ⟨_, getByName_of_none hcurrent, rfl⟩
  | some row =>
    have hread := getByName_of_some hcurrent name
    rw [h] at hread
    exact ⟨_, hread, rfl⟩

section Settled

variable {row : List Json} {rest : List (List Json)}

theorem next_of_nil (h : c.Settled) (hrows : c.rows = []) :
    c.next = (false, { c with current := none }) := by
  rw [next]
  split
  · next hclosed =>
    obtain ⟨shape, columns, rows, current, closed⟩ := c
    obtain rfl : current = none := (h hclosed).2
    rfl
  · rw [hrows]

theorem isOpen_of_cons (h : c.Settled) (hrows : c.rows = row :: rest) : ¬ c.closed = true := by
  intro hclosed
  rw [(h hclosed).1] at hrows
  cases hrows

theorem next_of_cons (h : c.Settled) (hrows : c.rows = row :: rest) :
    c.next = (true, { c with rows := rest, current := some row }) := by
  rw [next, if_neg (isOpen_of_cons h hrows), hrows]

theorem perform_of_nil (h : c.Settled) (hrows : c.rows = []) :
    c.perform .next = (.moved false, { c with current := none }) := by
  rw [perform, next_of_nil h hrows]

theorem perform_of_cons (h : c.Settled) (hrows : c.rows = row :: rest) :
    c.perform .next = (.moved true, { c with rows := rest, current := some row }) := by
  rw [perform, next_of_cons h hrows]

theorem remaining_eq (h : c.Settled) : c.remaining = c.rows.length := by
  rw [remaining]
  split
  · next hclosed => rw [(h hclosed).1, List.length_nil]
  · rfl

theorem allRows_eq (h : c.Settled) : c.allRows = c.rows := by
  rw [allRows]
  split
  · next hclosed => rw [(h hclosed).1]
  · rfl

/-- A cursor finds each of its rows, and then none. -/
theorem answers_next (h : c.Settled) (count : Nat) :
    c.answers (List.replicate count .next) =
      List.replicate (min count c.rows.length) (.moved true) ++
        List.replicate (count - c.rows.length) (.moved false) := by
  induction count generalizing c with
  | zero => simp [answers]
  | succ count ih =>
    cases hrows : c.rows with
    | nil =>
      have hrest := ih (c := { c with current := none }) fun hclosed => ⟨(h hclosed).1, rfl⟩
      rw [List.replicate_succ, answers, perform_of_nil h hrows, hrest, hrows]
      simp [List.replicate_succ]
    | cons row rest =>
      have hopen := isOpen_of_cons h hrows
      have hrest := ih (c := { c with rows := rest, current := some row })
        fun hclosed => absurd hclosed hopen
      rw [List.replicate_succ, answers, perform_of_cons h hrows, hrest]
      simp [Nat.succ_min_succ, List.replicate_succ]

end Settled

end Cursor

end Cursors

namespace RowSource

variable {s : RowSource} {told : List CursorAnswer} {c : Cursor}

theorem cursor_eq (s : RowSource) :
    s.cursor = ⟨s.cursor.shape, s.columns, s.rows, none, false⟩ := by
  cases s with
  | flattened columns rows =>
    simp only [cursor, Cursor.flattened, RowSource.rows, RowSource.columns, ← Cursor.fit_eq]
  | _ => rfl

theorem stands_start (s : RowSource) : s.Stands [] s.cursor := by
  rw [cursor_eq]
  exact ⟨rfl, rfl, rfl, nofun⟩

theorem width (s : RowSource) : ∀ row ∈ s.rows, row.length = s.columns.length := by
  cases s with
  | flattened columns rows => simp [RowSource.rows, RowSource.columns]
  | ofObjects columns objects => simp [RowSource.rows, RowSource.columns]
  | _ => simp [RowSource.rows, RowSource.columns]

theorem Stands.settled (h : s.Stands told c) : c.Settled := by
  intro hclosed
  rw [h.rows, h.current, h.ended_of_closed hclosed]
  exact ⟨rfl, rfl⟩

theorem getLast?_take_succ {rows : List (List Json)} {i : Nat} {row : List Json}
    (h : rows[i]? = some row) : (rows.take (i + 1)).getLast? = some row := by
  rw [List.getLast?_take, if_neg (by omega), Nat.add_sub_cancel, h, Option.some_or]

theorem Stands.of_cons (h : s.Stands told c) {row : List Json} {rest : List (List Json)}
    (hrows : c.rows = row :: rest) :
    ended told = false ∧ s.rows[found told]? = some row ∧ s.rows.drop (found told + 1) = rest := by
  have hleft := h.rows
  rw [hrows] at hleft
  split at hleft
  · cases hleft
  · next hopen =>
    refine ⟨by simpa using hopen, ?_, ?_⟩
    · rw [← List.head?_drop, ← hleft, List.head?_cons]
    · rw [← List.tail_drop, ← hleft, List.tail_cons]

/-- What an act changes is told by its answer. -/
theorem Stands.step (h : s.Stands told c) (act : CursorAct) :
    s.Stands (told ++ [(c.perform act).1]) (c.perform act).2 := by
  have hkeep : ∀ a : CursorAnswer, a.isFound = false → a.isEnd = false →
      s.Stands (told ++ [a]) c := by
    -- looking at the cursor leaves it where it stands
    intro a hfound hend
    have hfound' : found (told ++ [a]) = found told := by simp [found, hfound]
    have hended' : ended (told ++ [a]) = ended told := by simp [ended, hend]
    exact ⟨h.columns, by rw [hfound', hended', h.rows], by rw [hfound', hended', h.current],
      by rw [hended']; exact h.ended_of_closed⟩
  cases act with
  | next =>
    cases hrows : c.rows with
    | nil =>
      have hended : ended (told ++ [.moved false]) = true := by simp [ended, isEnd]
      rw [Cursor.perform_of_nil h.settled hrows]
      exact ⟨h.columns, by simp [hended, hrows], by simp [hended], fun _ => hended⟩
    | cons row rest =>
      have hfound : found (told ++ [.moved true]) = found told + 1 := by simp [found, isFound]
      have hended : ended (told ++ [.moved true]) = ended told := by simp [ended, isEnd]
      obtain ⟨hopen, hrow, hrest⟩ := h.of_cons hrows
      rw [Cursor.perform_of_cons h.settled hrows]
      refine ⟨h.columns, ?_, ?_, fun hclosed => ?_⟩
      · rw [hfound, hended, hopen, hrest]
        rfl
      · rw [hfound, hended, hopen, getLast?_take_succ hrow]
        rfl
      · rw [hended]
        exact h.ended_of_closed hclosed
  | get index => exact hkeep _ rfl rfl
  | getByName name => exact hkeep _ rfl rfl
  | remaining => exact hkeep _ rfl rfl
  | close =>
    have hended : ended (told ++ [.closed]) = true := by simp [ended, isEnd]
    exact ⟨h.columns, by simp [hended, Cursor.perform, Cursor.close],
      by simp [hended, Cursor.perform, Cursor.close], fun _ => hended⟩

theorem Stands.run (h : s.Stands told c) (acts : List CursorAct) :
    s.Stands (told ++ c.answers acts) (c.after acts) := by
  induction acts generalizing told c with
  | nil => simpa [Cursor.answers, Cursor.after] using h
  | cons act acts ih =>
    have hstep := ih (h.step act)
    rw [List.append_assoc] at hstep
    exact hstep

theorem Stands.width (h : s.Stands told c) :
    ∀ row, row ∈ c.rows ∨ c.current = some row → row.length = c.columns.length := by
  intro row hrow
  rw [h.rows, h.current] at hrow
  rw [h.columns]
  apply s.width
  split at hrow
  · simp at hrow
  · rcases hrow with hrow | hrow
    · exact List.mem_of_mem_drop hrow
    · exact List.mem_of_mem_take (List.mem_of_getLast? hrow)

theorem Stands.next_iff (h : s.Stands told c) :
    c.next.1 = true ↔ ended told = false ∧ found told < s.rows.length := by
  cases hrows : c.rows with
  | nil =>
    have hleft := h.rows
    rw [hrows] at hleft
    rw [Cursor.next_of_nil h.settled hrows]
    refine ⟨nofun, fun ⟨hopen, hlt⟩ => ?_⟩
    rw [hopen, if_neg (by simp), eq_comm, List.drop_eq_nil_iff] at hleft
    omega
  | cons row rest =>
    obtain ⟨hopen, hrow, -⟩ := h.of_cons hrows
    rw [Cursor.next_of_cons h.settled hrows]
    exact iff_of_true rfl ⟨hopen, (List.getElem?_eq_some_iff.mp hrow).1⟩

theorem Stands.exposes (h : s.Stands told c) (hnext : c.next.1 = true) :
    ∃ row, c.next.2.current = some row ∧ s.rows[found told]? = some row := by
  cases hrows : c.rows with
  | nil =>
    rw [Cursor.next_of_nil h.settled hrows] at hnext
    cases hnext
  | cons row rest =>
    rw [Cursor.next_of_cons h.settled hrows]
    exact ⟨row, rfl, (h.of_cons hrows).2.1⟩

theorem Stands.current_after (h : s.Stands told c) {i : Nat} (hi : i < c.rows.length) :
    (c.after (List.replicate (i + 1) .next)).current = c.rows[i]? := by
  have hopen : ended told = false := by
    by_contra hended
    rw [h.rows, if_pos (by simpa using hended)] at hi
    cases hi
  have hanswers :
      c.answers (List.replicate (i + 1) .next) = List.replicate (i + 1) (.moved true) := by
    rw [Cursor.answers_next h.settled, Nat.min_eq_left hi, Nat.sub_eq_zero_of_le hi]
    simp
  have hrow : s.rows[found told + i]? = some c.rows[i] := by
    rw [← List.getElem?_drop, ← List.getElem?_eq_getElem hi, h.rows, hopen]
    rfl
  have hrun := (h.run (List.replicate (i + 1) .next)).current
  rw [hanswers, ended_append, ended_finds, hopen, found_append, found_finds, ← Nat.add_assoc,
    getLast?_take_succ hrow] at hrun
  rw [hrun, List.getElem?_eq_getElem hi]
  rfl

theorem Stands.get_iff (h : s.Stands told c) (i : Nat) :
    (∃ v, c.get i = .ok v) ↔ c.current ≠ none ∧ i < c.columns.length := by
  simp only [Cursor.get_eq_ok_iff]
  constructor
  · rintro ⟨v, row, hrow, hv⟩
    rw [← h.width row (.inr hrow)]
    exact ⟨by simp [hrow], (List.getElem?_eq_some_iff.mp hv).1⟩
  · rintro ⟨hcurrent, hi⟩
    obtain ⟨row, hrow⟩ := Option.ne_none_iff_exists'.mp hcurrent
    rw [← h.width row (.inr hrow)] at hi
    exact ⟨row[i], row, hrow, List.getElem?_eq_getElem hi⟩

theorem Stands.getByName_iff (h : s.Stands told c) (name : String) :
    (∃ v, c.getByName name = .ok v) ↔ c.current ≠ none ∧ columnIndex? name c.columns ≠ none := by
  cases hindex : columnIndex? name c.columns with
  | none =>
    obtain ⟨e, he, -⟩ := Cursor.getByName_of_no_index hindex
    simp [he]
  | some i =>
    rw [Cursor.getByName_of_index hindex fun row hrow => h.width row (.inr hrow), h.get_iff]
    simp [columnIndex?_lt hindex]

theorem Stands.failure (h : s.Stands told c) {act : CursorAct} {e : Failure}
    (he : (c.perform act).1 = .read (.error e)) :
    e.kind = .exhausted ∧ (c.perform act).2 = c := by
  cases act with
  | get i =>
    exact ⟨Cursor.kind_of_get (CursorAnswer.read.inj he), rfl⟩
  | getByName name =>
    have he := CursorAnswer.read.inj he
    refine ⟨?_, rfl⟩
    cases hindex : columnIndex? name c.columns with
    | none =>
      obtain ⟨e', he', hkind⟩ := Cursor.getByName_of_no_index hindex
      rw [he'] at he
      exact Except.error.inj he ▸ hkind
    | some i =>
      rw [Cursor.getByName_of_index hindex fun row hrow => h.width row (.inr hrow)] at he
      exact Cursor.kind_of_get he
  | next => cases he
  | remaining => cases he
  | close => cases he

theorem Stands.protocol (h : s.Stands told c) : s.Protocol told c where
  toStands := h
  width := h.width
  next_iff := h.next_iff
  exposes := h.exposes
  get_iff := h.get_iff
  get_eq_ok_iff _ _ := Cursor.get_eq_ok_iff
  getByName_iff := h.getByName_iff
  getByName_eq _ _ hi := Cursor.getByName_of_index hi fun row hrow => h.width row (.inr hrow)
  failure _ _ he := h.failure he
  remaining count := by
    rw [Cursor.remaining_eq h.settled]
    exact Cursor.answers_next h.settled count
  length_allRows := by rw [Cursor.remaining_eq h.settled, Cursor.allRows_eq h.settled]
  allRows i hi := by
    rw [Cursor.remaining_eq h.settled] at hi
    rw [Cursor.allRows_eq h.settled]
    exact h.current_after hi

/-- In any run of a cursor, whatever it is made of, it finds its rows in order. -/
theorem protocol_of_acts (s : RowSource) (acts : List CursorAct) :
    s.Protocol (s.cursor.answers acts) (s.cursor.after acts) :=
  (s.stands_start.run acts).protocol

example : (RowSource.list [.int 1, .int 2, .int 3]).cursor.answers
    [.next, .getByName "RESULT", .close, .next, .remaining] =
      [.moved true, .read (.ok (.int 1)), .closed, .moved false, .counted 0] := rfl

end RowSource

end KeyspaceLink
