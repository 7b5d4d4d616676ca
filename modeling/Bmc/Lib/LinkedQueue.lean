import Mathlib.Tactic

/-!
# Queues of nodes in memory

A queue is a chain of nodes, with a pointer to its first node and a pointer to its last one.

* `LinkedQueue`: the memory and the two pointers, with `push`, `pop`, `clear` and `any`;
* `Path`, `Laid`: the nodes that are reached from a pointer; `Holds`: the values that a queue holds;
* **`Holds.push`**, **`Holds.pop`**, `Holds.clear`, `Holds.any`: the operations on the values.
-/

namespace BmcLib

/-- A node of a queue. -/
structure Node (α : Type*) where
  val : α
  next : Option ℕ

/-- A queue in memory. The addresses from `brk` on have not been handed out. -/
structure LinkedQueue (α : Type*) where
  mem : ℕ → Option (Node α)
  brk : ℕ
  front : Option ℕ
  rear : Option ℕ

variable {α : Type*}

namespace LinkedQueue

/-- The queue without nodes. -/
def empty : LinkedQueue α := { mem := fun _ => none, brk := 0, front := none, rear := none }

/-- The first node. -/
def first (q : LinkedQueue α) : Option (Node α) := q.front.bind q.mem

/-- The values of the nodes from a pointer on. -/
def valuesFrom (mem : ℕ → Option (Node α)) : ℕ → Option ℕ → List α
  | 0, _ => []
  | fuel + 1, a => match a.bind mem with
    | none => []
    | some node => node.val :: valuesFrom mem fuel node.next

/-- The values of the nodes. There are no more nodes than addresses. -/
def toList (q : LinkedQueue α) : List α := valuesFrom q.mem q.brk q.front

/-- One of the nodes from a pointer on passes a test. -/
def anyFrom (mem : ℕ → Option (Node α)) (p : α → Bool) : ℕ → Option ℕ → Bool
  | 0, _ => false
  | fuel + 1, a => match a.bind mem with
    | none => false
    | some node => p node.val || anyFrom mem p fuel node.next

/-- One of the nodes passes a test. -/
def any (q : LinkedQueue α) (p : α → Bool) : Bool := anyFrom q.mem p q.brk q.front

/-- The link of a node is written. -/
def setNext (mem : ℕ → Option (Node α)) (a next : Option ℕ) : ℕ → Option (Node α) :=
  match a, a.bind mem with
  | some r, some node => Function.update mem r (some { node with next := next })
  | _, _ => mem

/-- A new node at the rear. -/
def push (q : LinkedQueue α) (v : α) : LinkedQueue α :=
  let mem := Function.update q.mem q.brk (some { val := v, next := none })
  if q.front = none ∧ q.rear = none then
    { mem := mem, brk := q.brk + 1, front := some q.brk, rear := some q.brk }
  else
    { mem := setNext mem q.rear (some q.brk), brk := q.brk + 1, front := q.front, rear := some q.brk }

/-- The first node is freed. -/
def pop (q : LinkedQueue α) : LinkedQueue α :=
  match q.front, q.first with
  | some a, some node =>
    let mem := Function.update q.mem a none
    if node.next ≠ none then { q with mem := mem, front := node.next }
    else { q with mem := mem, front := none, rear := none }
  | _, _ => q

/-- The nodes are freed one by one. -/
def clearFrom : ℕ → LinkedQueue α → LinkedQueue α
  | 0, q => q
  | fuel + 1, q => if q.front = none then q else clearFrom fuel q.pop

/-- All nodes are freed. -/
def clear (q : LinkedQueue α) : LinkedQueue α := clearFrom q.brk q

/-! ## Nodes in memory -/

/-- The nodes that are passed on the way from one pointer to another, each with its address. -/
def Path (mem : ℕ → Option (Node α)) : Option ℕ → List (ℕ × α) → Option ℕ → Prop
  | a, [], b => a = b
  | a, c :: cells, b => a = some c.1 ∧ ∃ next, mem c.1 = some { val := c.2, next := next } ∧ Path mem next cells b

/-- The nodes of a queue: they lead from the front to the null pointer, and the rear is the last of them. -/
structure Laid (q : LinkedQueue α) (cells : List (ℕ × α)) : Prop where
  path : Path q.mem q.front cells none
  last : q.rear = (cells.map Prod.fst).getLast?
  nodup : (cells.map Prod.fst).Nodup
  fresh : ∀ c ∈ cells, c.1 < q.brk

/-- The values that a queue holds. -/
def Holds (q : LinkedQueue α) (l : List α) : Prop := ∃ cells, q.Laid cells ∧ cells.map Prod.snd = l

variable {mem mem' : ℕ → Option (Node α)} {q : LinkedQueue α} {l : List α} {v : α}

theorem path_append {a b : Option ℕ} {xs ys : List (ℕ × α)} :
    Path mem a (xs ++ ys) b ↔ ∃ m, Path mem a xs m ∧ Path mem m ys b := by
  induction xs generalizing a with
  | nil => simp [Path]
  | cons c xs ih =>
    simp only [List.cons_append, Path, ih]
    constructor
    · rintro ⟨ha, next, hnext, m, hxs, hys⟩
      exact ⟨m, ⟨ha, next, hnext, hxs⟩, hys⟩
    · rintro ⟨m, ⟨ha, next, hnext, hxs⟩, hys⟩
      exact ⟨ha, next, hnext, m, hxs, hys⟩

/-- A path stays when its nodes do. -/
theorem Path.congr {a b : Option ℕ} {cells : List (ℕ × α)} (h : Path mem a cells b)
    (hsame : ∀ c ∈ cells, mem' c.1 = mem c.1) : Path mem' a cells b := by
  induction cells generalizing a with
  | nil => exact h
  | cons c cells ih =>
    obtain ⟨ha, next, hnext, hrest⟩ := h
    refine ⟨ha, next, ?_, ih hrest fun d hd => hsame d (List.mem_cons_of_mem c hd)⟩
    rw [hsame c List.mem_cons_self, hnext]

theorem Path.eq_nil {cells : List (ℕ × α)} {b : Option ℕ} (h : Path mem none cells b) : cells = [] := by
  cases cells with
  | nil => rfl
  | cons c cells => exact absurd h.1.symm (Option.some_ne_none _)

theorem Path.anyFrom {a : Option ℕ} {cells : List (ℕ × α)} (h : Path mem a cells none) (p : α → Bool) {fuel : ℕ}
    (hfuel : cells.length ≤ fuel) : anyFrom mem p fuel a = (cells.map Prod.snd).any p := by
  induction cells generalizing a fuel with
  | nil =>
    obtain rfl : a = none := h
    cases fuel <;> rfl
  | cons c cells ih =>
    obtain ⟨rfl, next, hnext, hrest⟩ := h
    obtain ⟨fuel, rfl⟩ : ∃ n, fuel = n + 1 := ⟨fuel - 1, by rw [List.length_cons] at hfuel; omega⟩
    simp only [LinkedQueue.anyFrom, Option.bind_some, hnext, List.map_cons, List.any_cons]
    rw [ih hrest (by rw [List.length_cons] at hfuel; omega)]

theorem Path.valuesFrom {a : Option ℕ} {cells : List (ℕ × α)} (h : Path mem a cells none) {fuel : ℕ}
    (hfuel : cells.length ≤ fuel) : valuesFrom mem fuel a = cells.map Prod.snd := by
  induction cells generalizing a fuel with
  | nil =>
    obtain rfl : a = none := h
    cases fuel <;> rfl
  | cons c cells ih =>
    obtain ⟨rfl, next, hnext, hrest⟩ := h
    obtain ⟨fuel, rfl⟩ : ∃ n, fuel = n + 1 := ⟨fuel - 1, by rw [List.length_cons] at hfuel; omega⟩
    simp only [LinkedQueue.valuesFrom, Option.bind_some, hnext, List.map_cons]
    rw [ih hrest (by rw [List.length_cons] at hfuel; omega)]

theorem Laid.length_le {cells : List (ℕ × α)} (h : q.Laid cells) : cells.length ≤ q.brk := by
  have hsub : cells.map Prod.fst ⊆ List.range q.brk := by
    intro a ha
    obtain ⟨c, hc, rfl⟩ := List.mem_map.1 ha
    exact List.mem_range.2 (h.fresh c hc)
  have hle := (List.subperm_of_subset h.nodup hsub).length_le
  rwa [List.length_map, List.length_range] at hle

/-! ## What a queue holds -/

theorem holds_empty : (empty : LinkedQueue α).Holds [] :=
  ⟨[], ⟨rfl, rfl, List.nodup_nil, fun _ hc => absurd hc List.not_mem_nil⟩, rfl⟩

theorem Holds.any (h : q.Holds l) (p : α → Bool) : q.any p = l.any p := by
  obtain ⟨cells, hlaid, rfl⟩ := h
  exact hlaid.path.anyFrom p hlaid.length_le

theorem Holds.toList (h : q.Holds l) : q.toList = l := by
  obtain ⟨cells, hlaid, rfl⟩ := h
  exact hlaid.path.valuesFrom hlaid.length_le

theorem Holds.length_le (h : q.Holds l) : l.length ≤ q.brk := by
  obtain ⟨cells, hlaid, rfl⟩ := h
  rw [List.length_map]
  exact hlaid.length_le

theorem Holds.front_nil (h : q.Holds []) : q.front = none ∧ q.rear = none := by
  obtain ⟨cells, hlaid, hnil⟩ := h
  obtain rfl := List.map_eq_nil_iff.1 hnil
  exact ⟨hlaid.path, hlaid.last⟩

theorem Holds.first_nil (h : q.Holds []) : q.first = none := by
  rw [first, h.front_nil.1, Option.bind_none]

theorem Holds.first_cons (h : q.Holds (v :: l)) :
    q.front ≠ none ∧ ∃ next, q.first = some { val := v, next := next } := by
  obtain ⟨cells, hlaid, hcells⟩ := h
  obtain ⟨c, cells, rfl, rfl, rfl⟩ := List.map_eq_cons_iff.1 hcells
  obtain ⟨hfront, next, hnext, -⟩ := hlaid.path
  rw [first, hfront]
  exact ⟨Option.some_ne_none _, next, hnext⟩

/-- **A value comes behind the others.** -/
theorem Holds.push (h : q.Holds l) (v : α) : (q.push v).Holds (l ++ [v]) := by
  obtain ⟨cells, hlaid, rfl⟩ := h
  refine ⟨cells ++ [(q.brk, v)], ?_, by rw [List.map_append]; rfl⟩
  have hnew : ∀ c ∈ cells, c.1 ≠ q.brk := fun c hc => (hlaid.fresh c hc).ne
  have hnodup : ((cells ++ [(q.brk, v)]).map Prod.fst).Nodup := by
    rw [List.map_append]
    refine hlaid.nodup.append (List.nodup_singleton _) fun a ha hb => ?_
    obtain ⟨c, hc, rfl⟩ := List.mem_map.1 ha
    exact hnew c hc (List.mem_singleton.1 hb)
  have hfresh : ∀ c ∈ cells ++ [(q.brk, v)], c.1 < q.brk + 1 := by
    intro c hc
    rcases List.mem_append.1 hc with hc | hc
    · exact (hlaid.fresh c hc).trans q.brk.lt_succ_self
    · rw [List.mem_singleton.1 hc]
      exact q.brk.lt_succ_self
  have hlast : some q.brk = ((cells ++ [(q.brk, v)]).map Prod.fst).getLast? := by
    rw [List.map_append, List.map_singleton, List.getLast?_concat]
  rcases List.eq_nil_or_concat cells with rfl | ⟨init, ⟨r, w⟩, rfl⟩
  · have hfront : q.front = none ∧ q.rear = none := ⟨hlaid.path, hlaid.last⟩
    rw [LinkedQueue.push, if_pos hfront]
    exact ⟨⟨rfl, none, Function.update_self .., rfl⟩, hlast, hnodup, hfresh⟩
  · rw [List.concat_eq_append] at *
    -- the last node gets the link to the new one
    have hrear : q.rear = some r := by rw [hlaid.last, List.map_append, List.map_singleton, List.getLast?_concat]
    obtain ⟨m, hinit, rfl, next, hmem, rfl⟩ := path_append.1 hlaid.path
    have hr : r ≠ q.brk := hnew (r, w) (List.mem_append_right init List.mem_cons_self)
    have hne : ∀ c ∈ init, c.1 ≠ r := by
      intro c hc hcr
      have hdisj := (List.nodup_append.1 (by rw [← List.map_append]; exact hlaid.nodup)).2.2
      exact hdisj c.1 (List.mem_map_of_mem hc) r List.mem_cons_self hcr
    have hnext : setNext (Function.update q.mem q.brk (some { val := v, next := none })) q.rear (some q.brk) =
        Function.update (Function.update q.mem q.brk (some { val := v, next := none })) r
          (some { val := w, next := some q.brk }) := by
      have hget : Function.update q.mem q.brk (some { val := v, next := none }) r =
          some { val := w, next := none } := (Function.update_of_ne hr ..).trans hmem
      simp only [setNext, hrear, Option.bind_some, hget]
    rw [LinkedQueue.push, if_neg fun h => Option.some_ne_none r (hrear.symm.trans h.2), hnext]
    refine ⟨?_, hlast, hnodup, hfresh⟩
    rw [List.append_assoc]
    refine path_append.2 ⟨some r, hinit.congr fun c hc => ?_, rfl, some q.brk, Function.update_self .., rfl, none,
      ?_, rfl⟩
    · exact (Function.update_of_ne (hne c hc) ..).trans
        (Function.update_of_ne (hnew c (List.mem_append_left _ hc)) ..)
    · exact (Function.update_of_ne hr.symm ..).trans (Function.update_self ..)

/-- **The first value leaves.** -/
theorem Holds.pop (h : q.Holds (v :: l)) : q.pop.Holds l := by
  obtain ⟨cells, hlaid, hcells⟩ := h
  obtain ⟨c, cells, rfl, rfl, rfl⟩ := List.map_eq_cons_iff.1 hcells
  obtain ⟨hfront, next, hnext, hrest⟩ := hlaid.path
  have hfirst : q.first = some { val := c.2, next := next } := by rw [first, hfront]; exact hnext
  have hnodup := List.nodup_cons.1 hlaid.nodup
  have hsame : ∀ d ∈ cells, Function.update q.mem c.1 none d.1 = q.mem d.1 := by
    intro d hd
    apply Function.update_of_ne
    intro hdc
    apply hnodup.1
    rw [← hdc]
    exact List.mem_map_of_mem hd
  have hfresh : ∀ d ∈ cells, d.1 < q.brk := fun d hd => hlaid.fresh d (List.mem_cons_of_mem c hd)
  refine ⟨cells, ?_, rfl⟩
  simp only [LinkedQueue.pop, hfront, hfirst]
  by_cases hnone : next = none
  · subst hnone
    obtain rfl := hrest.eq_nil
    rw [if_neg (not_not_intro rfl)]
    exact ⟨rfl, rfl, List.nodup_nil, hfresh⟩
  · rw [if_pos hnone]
    refine ⟨hrest.congr hsame, ?_, hnodup.2, hfresh⟩
    obtain ⟨d, cells, rfl⟩ : ∃ d ds, cells = d :: ds := by
      cases cells with
      | nil => exact absurd hrest hnone
      | cons d ds => exact ⟨d, ds, rfl⟩
    exact hlaid.last.trans List.getLast?_cons_cons

theorem Holds.clearFrom (h : q.Holds l) {fuel : ℕ} (hfuel : l.length ≤ fuel) : (clearFrom fuel q).Holds [] := by
  induction l generalizing q fuel with
  | nil =>
    cases fuel with
    | zero => exact h
    | succ fuel =>
      rw [LinkedQueue.clearFrom, if_pos h.front_nil.1]
      exact h
  | cons v l ih =>
    obtain ⟨fuel, rfl⟩ : ∃ n, fuel = n + 1 := ⟨fuel - 1, by rw [List.length_cons] at hfuel; omega⟩
    rw [LinkedQueue.clearFrom, if_neg h.first_cons.1]
    exact ih h.pop (by rw [List.length_cons] at hfuel; omega)

/-- All values leave. -/
theorem Holds.clear (h : q.Holds l) : q.clear.Holds [] := h.clearFrom h.length_le

end LinkedQueue

end BmcLib
