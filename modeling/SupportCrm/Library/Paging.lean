import Mathlib.Data.List.Nodup
import Mathlib.Data.List.Sort
import Mathlib.Data.List.TakeWhile

/-!
# Paging with a cursor

Somebody reads a list page by page. A page request names the last element of the page before
as its cursor, and gets the elements after it. Between two requests the list may change.

`Before l a b` is the order of a list. A stable sort and a filter have simple orders
(`before_insertionSort_iff`, `before_filter_iff`), and what a request finds is what comes after
its cursor (`mem_after_iff`). One page conserves the elements: those after its cursor are
those shown and those after the next cursor (`mem_after_iff_of_more`). So along a walk an
element is shown once, and once more for each request that brings it back behind the cursor,
and once less for each that loses it (`Walk.shown_add_lost`).
-/

set_option autoImplicit false

namespace CursorPaging

variable {α κ : Type}

/-! ## The order of a list -/

/-- The first element comes before the second. -/
def Before (l : List α) (a b : α) : Prop := [a, b].Sublist l

instance [DecidableEq α] (l : List α) (a b : α) : Decidable (Before l a b) :=
  inferInstanceAs (Decidable ([a, b].Sublist l))

section Order

variable {l l' : List α} {a b : α}

theorem Before.left (before : Before l a b) : a ∈ l := before.subset List.mem_cons_self

theorem Before.right (before : Before l a b) : b ∈ l :=
  before.subset (List.mem_cons_of_mem a List.mem_cons_self)

theorem before_cons_iff {c : α} : Before (c :: l) a b ↔ Before l a b ∨ a = c ∧ b ∈ l := by
  unfold Before
  constructor
  · intro before
    cases before with
    | cons _ rest => exact .inl rest
    | cons_cons _ rest => exact .inr ⟨rfl, List.singleton_sublist.mp rest⟩
  · rintro (rest | ⟨rfl, member⟩)
    · exact rest.cons c
    · exact (List.singleton_sublist.mpr member).cons_cons a

theorem Before.asymm (distinct : l.Nodup) (before : Before l a b) : ¬ Before l b a := by
  induction l with
  | nil => cases before
  | cons c rest ih =>
      obtain ⟨fresh, distinct⟩ := List.nodup_cons.mp distinct
      rw [before_cons_iff] at before ⊢
      rintro (after | ⟨rfl, member⟩)
      · rcases before with before | ⟨rfl, -⟩
        · exact ih distinct before after
        · exact fresh after.right
      · rcases before with before | ⟨rfl, -⟩
        · exact fresh before.right
        · exact fresh member

theorem Before.ne (distinct : l.Nodup) (before : Before l a b) : a ≠ b := by
  rintro rfl
  exact before.asymm distinct before

theorem before_or_before (left : a ∈ l) (right : b ∈ l) (ne : a ≠ b) :
    Before l a b ∨ Before l b a := by
  induction l with
  | nil => cases left
  | cons c rest ih =>
      rw [before_cons_iff, before_cons_iff]
      rcases List.mem_cons.mp left with rfl | left'
      · rcases List.mem_cons.mp right with rfl | right'
        · exact absurd rfl ne
        · exact .inl (.inr ⟨rfl, right'⟩)
      · rcases List.mem_cons.mp right with rfl | right'
        · exact .inr (.inr ⟨rfl, left'⟩)
        · exact (ih left' right').imp .inl .inl

/-- A longer list keeps the order. -/
theorem before_iff_of_sublist (shorter : l.Sublist l') (distinct : l'.Nodup) (left : a ∈ l)
    (right : b ∈ l) : Before l a b ↔ Before l' a b := by
  refine ⟨fun before => before.trans shorter, fun before => ?_⟩
  refine (before_or_before left right (before.ne distinct)).resolve_right fun after => ?_
  exact before.asymm distinct (after.trans shorter)

theorem before_filter_iff {p : α → Bool} :
    Before (l.filter p) a b ↔ p a = true ∧ p b = true ∧ Before l a b := by
  constructor
  · intro before
    exact ⟨(List.mem_filter.mp before.left).2, (List.mem_filter.mp before.right).2,
      before.trans List.filter_sublist⟩
  · rintro ⟨left, right, before⟩
    have kept := List.Sublist.filter p before
    rwa [List.filter_cons_of_pos left, List.filter_cons_of_pos right, List.filter_nil] at kept

/-- **The sort is stable**: it orders by the relation, and as before where that ties. -/
theorem before_insertionSort_iff {r : α → α → Prop} [DecidableRel r] [Std.Total r] [IsTrans α r]
    (distinct : l.Nodup) (left : a ∈ l) (right : b ∈ l) :
    Before (l.insertionSort r) a b ↔ r a b ∧ (r b a → Before l a b) := by
  have sorted : (l.insertionSort r).Nodup := (List.perm_insertionSort r l).nodup_iff.mpr distinct
  constructor
  · intro before
    refine ⟨List.pairwise_iff_forall_sublist.mp (List.pairwise_insertionSort r l) before,
      fun ties => ?_⟩
    refine (before_or_before left right (before.ne sorted)).resolve_right fun after => ?_
    exact before.asymm sorted (List.pair_sublist_insertionSort ties after)
  · rintro ⟨ordered, ties⟩
    by_cases back : r b a
    · exact List.pair_sublist_insertionSort ordered (ties back)
    · have ne : a ≠ b := by
        rintro rfl
        exact back ordered
      refine (before_or_before ((List.mem_insertionSort r).mpr left)
        ((List.mem_insertionSort r).mpr right) ne).resolve_right fun after => ?_
      exact back (List.pairwise_iff_forall_sublist.mp (List.pairwise_insertionSort r l) after)

section Descending

variable {τ : Type} [LinearOrder τ] (time : α → τ)

instance total_descending : Std.Total fun a b => time b ≤ time a :=
  ⟨fun a b => le_total (time b) (time a)⟩

instance trans_descending : IsTrans α fun a b => time b ≤ time a :=
  ⟨fun _ _ _ first second => second.trans first⟩

end Descending

theorem before_map_iff {β : Type} {f : α → β} (distinct : (l.map f).Nodup) (left : a ∈ l)
    (right : b ∈ l) : Before (l.map f) (f a) (f b) ↔ Before l a b := by
  refine ⟨fun before => ?_, fun before => before.map f⟩
  have ne : a ≠ b := fun same => before.ne distinct (congrArg f same)
  refine (before_or_before left right ne).resolve_right fun after => ?_
  exact before.asymm distinct (after.map f)

end Order

/-! ## One page -/

section Page

variable [DecidableEq κ] (key : α → κ)

/-- The elements after the one that the cursor names; none where there is no such element. -/
def after (cursor : Option κ) (l : List α) : List α :=
  match cursor with
  | none => l
  | some k => (l.dropWhile fun a => key a ≠ k).drop 1

/-- A request: the elements that there are, those that it shows, and the next cursor. -/
structure Visit (α κ : Type) where
  seen : List α
  shown : List α
  next : Option κ

/-- The visit shows the first elements after the cursor, and hands out the last of them as the
next cursor if there are more. -/
structure Visit.Answers (limit : ℕ) (cursor : Option κ) (v : Visit α κ) : Prop where
  shown : v.shown = (after key cursor v.seen).take limit
  next : v.next =
    if limit < (after key cursor v.seen).length then v.shown.getLast?.map key else none

variable {key}

theorem mem_after_iff {k : κ} {l : List α} {x : α} :
    x ∈ after key (some k) l ↔ ∃ a, key a = k ∧ Before l a x := by
  induction l with
  | nil => exact iff_of_false List.not_mem_nil fun ⟨_, _, before⟩ => List.not_mem_nil before.left
  | cons c rest ih =>
      simp only [before_cons_iff]
      by_cases own : key c = k
      · have found : after key (some k) (c :: rest) = rest := by simp [after, own]
        rw [found]
        constructor
        · exact fun member => ⟨c, own, .inr ⟨rfl, member⟩⟩
        · rintro ⟨a, -, before | ⟨-, member⟩⟩
          · exact before.right
          · exact member
      · have passed : after key (some k) (c :: rest) = after key (some k) rest := by
          simp [after, own]
        rw [passed, ih]
        constructor
        · exact fun ⟨a, named, before⟩ => ⟨a, named, .inl before⟩
        · rintro ⟨a, named, before | ⟨rfl, -⟩⟩
          · exact ⟨a, named, before⟩
          · exact absurd named own

theorem after_suffix (key : α → κ) (cursor : Option κ) (l : List α) : after key cursor l <:+ l := by
  cases cursor with
  | none => exact List.suffix_refl l
  | some k => exact (List.drop_suffix 1 _).trans (List.dropWhile_suffix _)

theorem after_append {front rest : List α} {c : α} (fresh : ∀ a ∈ front, key a ≠ key c) :
    after key (some (key c)) (front ++ c :: rest) = rest := by
  change ((front ++ c :: rest).dropWhile fun a => key a ≠ key c).drop 1 = rest
  rw [List.dropWhile_append_of_pos fun a member => decide_eq_true (fresh a member),
    List.dropWhile_cons_of_neg (by simp)]
  rfl

theorem after_eq_nil {k : κ} {l : List α} (absent : ∀ a ∈ l, key a ≠ k) :
    after key (some k) l = [] := by
  change (l.dropWhile fun a => key a ≠ k).drop 1 = []
  rw [List.dropWhile_eq_nil_iff.mpr fun a member => decide_eq_true (absent a member), List.drop_nil]

/-- A filter leaves the first elements alone exactly if it keeps them all. -/
theorem take_filter_eq_iff {p : α → Bool} {n : ℕ} {l : List α} :
    (l.filter p).take n = l.take n ↔ ∀ a ∈ l.take n, p a = true := by
  constructor
  · intro same a member
    rw [← same] at member
    exact (List.mem_filter.mp (List.mem_of_mem_take member)).2
  · intro keeps
    induction l generalizing n with
    | nil => rfl
    | cons a l ih =>
        cases n with
        | zero => rfl
        | succ n =>
            rw [List.take_succ_cons] at keeps ⊢
            obtain ⟨here, rest⟩ := List.forall_mem_cons.mp keeps
            rw [List.filter_cons_of_pos here, List.take_succ_cons, ih rest]

/-- **A filter leaves a page alone** exactly if it keeps all that the page shows, and, where it
shows something, what the cursor names. -/
theorem take_after_filter_eq_iff {p : α → Bool} {n : ℕ} {l : List α} {cursor : Option κ}
    (distinct : (l.map key).Nodup) :
    (after key cursor (l.filter p)).take n = (after key cursor l).take n ↔
      ∀ a ∈ (after key cursor l).take n,
        p a = true ∧ ∀ k, cursor = some k → ∃ b ∈ l, key b = k ∧ p b = true := by
  cases cursor with
  | none => simpa [after] using take_filter_eq_iff
  | some k =>
      by_cases named : ∃ c ∈ l, key c = k
      · obtain ⟨c, member, rfl⟩ := named
        have only : ∀ b ∈ l, key b = key c → b = c := fun b listed same =>
          List.inj_on_of_nodup_map distinct listed member same
        obtain ⟨front, rest, rfl⟩ := List.append_of_mem member
        rw [List.map_append, List.map_cons, List.nodup_append] at distinct
        have fresh : ∀ a ∈ front, key a ≠ key c := fun a listed =>
          distinct.2.2 _ (List.mem_map_of_mem listed) _ List.mem_cons_self
        rw [after_append fresh]
        cases kept : p c with
        | true =>
            have still : ∀ a ∈ front.filter p, key a ≠ key c :=
              fun a listed => fresh a (List.mem_of_mem_filter listed)
            rw [List.filter_append, List.filter_cons_of_pos kept, after_append still,
              take_filter_eq_iff]
            refine forall₂_congr fun a _ => (and_iff_left ?_).symm
            rintro _ ⟨⟩
            exact ⟨c, member, rfl, kept⟩
        | false =>
            have gone : ∀ a ∈ (front ++ c :: rest).filter p, key a ≠ key c := by
              intro a listed same
              obtain ⟨inside, chosen⟩ := List.mem_filter.mp listed
              rw [only a inside same, kept] at chosen
              cases chosen
            rw [after_eq_nil gone, List.take_nil, eq_comm, List.eq_nil_iff_forall_not_mem]
            refine forall₂_congr fun a _ => (iff_false_left not_false).mpr ?_
            rintro ⟨-, chosen⟩
            obtain ⟨b, inside, same, chosen⟩ := chosen _ rfl
            rw [only b inside same, kept] at chosen
            cases chosen
      · have absent : ∀ a ∈ l, key a ≠ k := fun a member same => named ⟨a, member, same⟩
        rw [after_eq_nil absent,
          after_eq_nil fun a member => absent a (List.mem_of_mem_filter member)]
        simp

namespace Visit.Answers

variable {limit : ℕ} {cursor : Option κ} {v : Visit α κ}

/-- The last page shows everything that is left. -/
theorem shown_of_none (answers : v.Answers key limit cursor) (pos : 0 < limit)
    (ends : v.next = none) : v.shown = after key cursor v.seen := by
  have next := answers.next
  rw [ends] at next
  split at next
  · next more =>
    have empty := List.getLast?_eq_none_iff.mp (Option.map_eq_none_iff.mp next.symm)
    rw [answers.shown, List.take_eq_nil_iff] at empty
    rcases empty with zero | none
    · omega
    · rw [none] at more
      cases more
  · next all => rw [answers.shown, List.take_of_length_le (not_lt.mp all)]

/-- **A page conserves the elements**: what comes after its cursor is what it shows and what
comes after the next cursor. -/
theorem after_eq_append (answers : v.Answers key limit cursor)
    (distinct : (v.seen.map key).Nodup) {c : κ} (goes : v.next = some c) :
    after key cursor v.seen = v.shown ++ after key (some c) v.seen := by
  have next := answers.next
  rw [goes] at next
  split at next
  · obtain ⟨a, last, named⟩ := Option.map_eq_some_iff.mp next.symm
    obtain ⟨init, split⟩ := List.getLast?_eq_some_iff.mp last
    obtain ⟨front, whole⟩ := after_suffix key cursor v.seen
    have parts : v.seen = (front ++ init) ++ a :: (after key cursor v.seen).drop limit := by
      conv_lhs => rw [← whole, ← List.take_append_drop limit (after key cursor v.seen),
        ← answers.shown, split]
      simp
    have fresh : ∀ b ∈ front ++ init, key b ≠ key a := by
      intro b member same
      rw [parts, List.map_append, List.nodup_append] at distinct
      exact distinct.2.2 _ (List.mem_map_of_mem member) _ List.mem_cons_self same
    have left : after key (some c) v.seen = (after key cursor v.seen).drop limit := by
      rw [← named]
      conv_lhs => rw [parts]
      exact after_append fresh
    rw [left, answers.shown, List.take_append_drop]
  · cases next

theorem shown_subset (answers : v.Answers key limit cursor) : v.shown ⊆ v.seen := by
  rw [answers.shown]
  exact fun _ member => (after_suffix key cursor v.seen).subset (List.mem_of_mem_take member)

/-- The next cursor is that of an element that is shown. -/
theorem mem_of_next (answers : v.Answers key limit cursor) {c : κ} (goes : v.next = some c) :
    ∃ a ∈ v.shown, key a = c := by
  have next := answers.next
  rw [goes] at next
  split at next
  · obtain ⟨a, last, named⟩ := Option.map_eq_some_iff.mp next.symm
    exact ⟨a, List.mem_of_getLast? last, named⟩
  · cases next

/-- A page that is not the last is full. -/
theorem length_shown (answers : v.Answers key limit cursor) {c : κ} (goes : v.next = some c) :
    v.shown.length = limit := by
  have next := answers.next
  rw [goes] at next
  split at next
  · next more => rw [answers.shown, List.length_take_of_le more.le]
  · cases next

/-- Less is left after every page that is not the last. -/
theorem length_after_lt (answers : v.Answers key limit cursor) (pos : 0 < limit)
    (distinct : (v.seen.map key).Nodup) {c : κ} (goes : v.next = some c) :
    (after key (some c) v.seen).length < (after key cursor v.seen).length := by
  rw [answers.after_eq_append distinct goes, List.length_append, answers.length_shown goes]
  omega

/-- The element is shown, or it comes after the next cursor, and not both. -/
theorem mem_shown_iff (answers : v.Answers key limit cursor) (distinct : (v.seen.map key).Nodup)
    {c : κ} (goes : v.next = some c) {x : α} :
    x ∈ v.shown ↔ x ∈ after key cursor v.seen ∧ x ∉ after key (some c) v.seen := by
  have parts := answers.after_eq_append distinct goes
  have apart := distinct.of_map.sublist (after_suffix key cursor v.seen).sublist
  rw [parts, List.nodup_append] at apart
  rw [parts, List.mem_append]
  constructor
  · exact fun member => ⟨.inl member, fun later => apart.2.2 x member x later rfl⟩
  · exact fun ⟨either, absent⟩ => either.resolve_right absent

end Visit.Answers

end Page

/-! ## A walk -/

section Walk

variable [DecidableEq κ] [DecidableEq α] (key : α → κ) (limit : ℕ)

/-- The visits of somebody who follows the cursors to the end. -/
inductive Walk : Option κ → List (Visit α κ) → Prop where
  | last {cursor : Option κ} {v : Visit α κ} (answers : v.Answers key limit cursor)
      (ends : v.next = none) : Walk cursor [v]
  | more {cursor : Option κ} {v v' : Visit α κ} {rest : List (Visit α κ)} {c : κ}
      (answers : v.Answers key limit cursor) (goes : v.next = some c)
      (walk : Walk (some c) (v' :: rest)) : Walk cursor (v :: v' :: rest)

/-- The element came after the cursor when it was handed out, and does not when it is used. -/
def lost (x : α) (v v' : Visit α κ) : Bool :=
  v.next.any fun c => x ∈ after key (some c) v.seen && x ∉ after key (some c) v'.seen

/-- The element did not come after the cursor when it was handed out, and does when it is
used. -/
def regained (x : α) (v v' : Visit α κ) : Bool :=
  v.next.any fun c => x ∉ after key (some c) v.seen && x ∈ after key (some c) v'.seen

/-- How often something happens to the element from one visit to the next. -/
def countMoves (happens : Visit α κ → Visit α κ → Bool) (visits : List (Visit α κ)) : ℕ :=
  (visits.zip visits.tail).countP fun p => happens p.1 p.2

variable {key limit}

/-- **What a walk shows.** -/
theorem Walk.shown_add_lost {cursor : Option κ} {visits : List (Visit α κ)}
    (walk : Walk key limit cursor visits) (pos : 0 < limit)
    (distinct : ∀ v ∈ visits, (v.seen.map key).Nodup) (x : α) :
    ∀ v ∈ visits.head?, visits.countP (x ∈ ·.shown) + countMoves (lost key x) visits =
      (if x ∈ after key cursor v.seen then 1 else 0) + countMoves (regained key x) visits := by
  induction walk with
  | last answers ends =>
      rintro v ⟨⟩
      rw [← answers.shown_of_none pos ends]
      simp [countMoves]
  | @more cursor v v' rest c answers goes walk ih =>
      rintro _ ⟨⟩
      obtain ⟨here, later⟩ := List.forall_mem_cons.mp distinct
      have rests := ih later v' rfl
      have shown := answers.mem_shown_iff here goes (x := x)
      simp only [countMoves, List.tail_cons, List.zip_cons_cons, List.countP_cons, lost, regained,
        goes, Option.any_some, shown] at rests ⊢
      by_cases still : x ∈ after key (some c) v.seen
      · have before : x ∈ after key cursor v.seen := by
          rw [answers.after_eq_append here goes]
          exact List.mem_append_right _ still
        by_cases found : x ∈ after key (some c) v'.seen
        · simp [still, before, found] at rests ⊢
          omega
        · simp [still, before, found] at rests ⊢
          omega
      · by_cases found : x ∈ after key (some c) v'.seen
        · simp [still, found] at rests ⊢
          omega
        · simp [still, found] at rests ⊢
          omega

omit [DecidableEq α] in
/-- **A walk through a list that stays as it is.** Its pages show what comes after the first
cursor, in this order, and all but the last are full. -/
theorem Walk.still {cursor : Option κ} {visits : List (Visit α κ)} {l : List α}
    (walk : Walk key limit cursor visits) (pos : 0 < limit) (distinct : (l.map key).Nodup)
    (still : ∀ v ∈ visits, v.seen = l) :
    visits.flatMap Visit.shown = after key cursor l ∧
      ∀ v ∈ visits.dropLast, v.shown.length = limit := by
  induction walk with
  | @last cursor v answers ends =>
      have seen := still v List.mem_cons_self
      constructor
      · rw [List.flatMap_singleton, answers.shown_of_none pos ends, seen]
      · exact fun _ member => absurd member List.not_mem_nil
  | @more cursor v v' rest c answers goes walk ih =>
      obtain ⟨seen, others⟩ := List.forall_mem_cons.mp still
      obtain ⟨shown, full⟩ := ih others
      constructor
      · rw [List.flatMap_cons, shown, ← seen, ← answers.after_eq_append (seen ▸ distinct) goes]
      · exact List.forall_mem_cons.mpr ⟨answers.length_shown goes, full⟩

/-- Every cursor has the element behind it when it is used exactly if it had when it was handed
out. -/
def Keeps (key : α → κ) (x : α) (v v' : Visit α κ) : Prop :=
  ∀ c, v.next = some c → (x ∈ after key (some c) v'.seen ↔ x ∈ after key (some c) v.seen)

theorem keeps_iff {x : α} {v v' : Visit α κ} :
    Keeps key x v v' ↔ lost key x v v' = false ∧ regained key x v v' = false := by
  unfold Keeps lost regained
  cases v.next with
  | none => simp
  | some c =>
      by_cases before : x ∈ after key (some c) v.seen
      · by_cases found : x ∈ after key (some c) v'.seen <;> simp [before, found]
      · by_cases found : x ∈ after key (some c) v'.seen <;> simp [before, found]

/-- Where every cursor keeps its place, an element after the first one is shown once. The visits
may be recorded in any form `f`. -/
theorem Walk.shown_once {β : Type} {f : β → Visit α κ} {cursor : Option κ} {b : β} {rest : List β}
    (walk : Walk key limit cursor ((b :: rest).map f)) (pos : 0 < limit)
    (distinct : ∀ u ∈ b :: rest, ((f u).seen.map key).Nodup) {x : α}
    (keeps : ∀ p ∈ (b :: rest).zip rest, Keeps key x (f p.1) (f p.2))
    (starts : x ∈ after key cursor (f b).seen) :
    (b :: rest).countP (fun u => x ∈ (f u).shown) = 1 := by
  have none {happens : Visit α κ → Visit α κ → Bool}
      (never : ∀ v v', Keeps key x v v' → happens v v' = false) :
      countMoves happens ((b :: rest).map f) = 0 := by
    rw [countMoves, ← List.map_tail, List.zip_map, List.countP_map, List.countP_eq_zero]
    intro p moved
    simp [never _ _ (keeps p moved)]
  have shown := walk.shown_add_lost pos (List.forall_mem_map.mpr distinct) x (f b) rfl
  rw [none fun _ _ kept => (keeps_iff.mp kept).1, none fun _ _ kept => (keeps_iff.mp kept).2,
    if_pos starts, List.countP_map] at shown
  exact shown

end Walk

end CursorPaging
