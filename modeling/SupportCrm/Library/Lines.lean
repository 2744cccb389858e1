import Mathlib.Data.List.Infix
import Mathlib.Data.Set.Basic

/-!
# Tagged lines

A text of optional fields: a field that is there is a line, which is the separator, the tag of
the field and its value, and the lines stand in the order of the tags. Nothing keeps a line of
another field out of a value. With values that hold no line of a later tag the text says what
the fields are (`append_lines_inj`), and every text is that of such values (`exists_lines`).

A line that is always there, with a value in a code, stands between a free text and the fields.
It is found again when the free text holds no such line that a field follows (`marked_inj`,
`exists_marked`).
-/

set_option autoImplicit false

namespace TaggedLines

variable {α : Type*} {sep : α}

/-! ## Lines inside a text -/

theorem prefix_append_sep {tag : List α} (unbroken : sep ∉ tag) :
    ∀ {text rest : List α}, tag <+: text ++ sep :: rest → tag <+: text
  | [], _, start => by
      cases tag with
      | nil => exact List.nil_prefix
      | cons a tag =>
          obtain ⟨rfl, -⟩ := List.cons_prefix_cons.mp start
          exact absurd List.mem_cons_self unbroken
  | b :: text, _, start => by
      cases tag with
      | nil => exact List.nil_prefix
      | cons a tag =>
          obtain ⟨rfl, tail⟩ := List.cons_prefix_cons.mp start
          exact List.cons_prefix_cons.mpr
            ⟨rfl, prefix_append_sep (List.not_mem_of_not_mem_cons unbroken) tail⟩

theorem line_infix_cons {tag text : List α} (start : tag <+: text) :
    (sep :: tag) <:+: sep :: text := (List.cons_prefix_cons.mpr ⟨rfl, start⟩).isInfix

/-- A line inside a text with a separator in it is before the separator, at it or after it. -/
theorem infix_append_sep {tag : List α} (unbroken : sep ∉ tag) :
    ∀ {text rest : List α}, (sep :: tag) <:+: text ++ sep :: rest →
      (sep :: tag) <:+: text ∨ tag <+: rest ∨ (sep :: tag) <:+: rest
  | [], _, inside => by
      rcases List.infix_cons_iff.mp inside with start | later
      · exact .inr (.inl (List.cons_prefix_cons.mp start).2)
      · exact .inr (.inr later)
  | b :: text, _, inside => by
      rcases List.infix_cons_iff.mp inside with start | later
      · obtain ⟨rfl, tail⟩ := List.cons_prefix_cons.mp start
        exact .inl (line_infix_cons (prefix_append_sep unbroken tail))
      · rcases infix_append_sep unbroken later with before | after
        · exact .inl (List.infix_cons before)
        · exact .inr after

/-- No line starts before the first separator. -/
theorem infix_of_unbroken {tag : List α} :
    ∀ {text rest : List α}, sep ∉ text → (sep :: tag) <:+: text ++ rest →
      (sep :: tag) <:+: rest
  | [], _, _, inside => inside
  | b :: text, _, unbroken, inside => by
      rcases List.infix_cons_iff.mp inside with start | later
      · exact absurd (List.cons_prefix_cons.mp start).1 (List.ne_of_not_mem_cons unbroken)
      · exact infix_of_unbroken (List.not_mem_of_not_mem_cons unbroken) later

/-- A text that holds a word splits at the first place where it stands. -/
theorem exists_first {word : List α} (nonempty : word ≠ []) {text : List α}
    (inside : word <:+: text) :
    ∃ before after, before ++ word ++ after = text ∧ ¬ word <:+: before := by
  obtain ⟨before, after, rfl⟩ := inside
  by_cases earlier : word <:+: before
  · have shorter : before.length < (before ++ word ++ after).length := by
      have := List.length_pos_of_ne_nil nonempty
      simp only [List.length_append]
      omega
    obtain ⟨first, between, rfl, fresh⟩ := exists_first nonempty earlier
    exact ⟨first, between ++ word ++ after, by simp only [List.append_assoc], fresh⟩
  · exact ⟨before, after, rfl, earlier⟩
termination_by text.length

/-- Of two places where a line starts, the first is inside the text before the second. -/
theorem gap_eq_nil {tag gap rest rest' : List α} (unbroken : sep ∉ tag)
    (same : sep :: (tag ++ rest) = gap ++ sep :: rest') (fresh : ¬ (sep :: tag) <:+: gap) :
    gap = [] := by
  cases gap with
  | nil => rfl
  | cons a gap =>
      obtain ⟨rfl, after⟩ := List.cons.inj same
      have start := prefix_append_sep unbroken (after ▸ List.prefix_append tag rest)
      exact absurd (line_infix_cons start) fresh

/-- The first line of a tag is found in a text. -/
theorem first_line_inj {tag text text' rest rest' : List α} (unbroken : sep ∉ tag)
    (fresh : ¬ (sep :: tag) <:+: text) (fresh' : ¬ (sep :: tag) <:+: text')
    (same : text ++ sep :: (tag ++ rest) = text' ++ sep :: (tag ++ rest')) :
    text = text' ∧ rest = rest' := by
  have places : text = text' := by
    rcases List.append_eq_append_iff.mp same with ⟨gap, rfl, after⟩ | ⟨gap, rfl, after⟩
    · have outside := fun inside => fresh' (List.infix_append_of_infix_right inside)
      rw [gap_eq_nil unbroken after outside, List.append_nil]
    · have outside := fun inside => fresh (List.infix_append_of_infix_right inside)
      rw [gap_eq_nil unbroken after outside, List.append_nil]
  subst places
  have after := List.append_cancel_left same
  exact ⟨rfl, List.append_cancel_left (List.cons.inj after).2⟩

/-! ## Optional fields -/

/-- The text holds no line of the tags. -/
def Free (sep : α) (tags : List (List α)) (text : List α) : Prop :=
  ∀ tag ∈ tags, ¬ (sep :: tag) <:+: text

/-- The line of a field that is there. -/
def fieldLine (sep : α) (tag : List α) : Option (List α) → List α
  | none => []
  | some value => sep :: (tag ++ value)

/-- The lines of the fields that are there. -/
def lines (sep : α) : List (List α) → List (Option (List α)) → List α
  | tag :: tags, some value :: values => sep :: (tag ++ value) ++ lines sep tags values
  | _ :: tags, none :: values => lines sep tags values
  | _, _ => []

theorem lines_cons (tag : List α) (tags : List (List α)) (value : Option (List α))
    (values : List (Option (List α))) :
    lines sep (tag :: tags) (value :: values) =
      fieldLine sep tag value ++ lines sep tags values := by
  cases value <;> rfl

/-- Joining by the separator is a line for each text but the first. -/
theorem intercalate_cons (text : List α) (texts : List (List α)) :
    [sep].intercalate (text :: texts) = text ++ texts.flatMap (sep :: ·) := by
  induction texts generalizing text with
  | nil => rw [List.intercalate_singleton, List.flatMap_nil, List.append_nil]
  | cons next texts ih =>
      rw [List.intercalate_cons_cons, ih, List.flatMap_cons, List.append_assoc,
        List.singleton_append, List.cons_append]

/-- A value or none for each tag, and no value holds a line of a later tag. -/
inductive Separated (sep : α) : List (List α) → List (Option (List α)) → Prop where
  | nil : Separated sep [] []
  | absent {tag : List α} {tags : List (List α)} {values : List (Option (List α))} :
      Separated sep tags values → Separated sep (tag :: tags) (none :: values)
  | present {tag value : List α} {tags : List (List α)} {values : List (Option (List α))} :
      Free sep tags value → Separated sep tags values →
        Separated sep (tag :: tags) (some value :: values)

/-- Tags that a text can tell apart. -/
structure Distinct (sep : α) (tags : List (List α)) : Prop where
  unbroken : ∀ tag ∈ tags, sep ∉ tag
  apart : tags.Pairwise fun tag later => ¬ tag <+: later ∧ ¬ later <+: tag

section

variable {tag text text' : List α} {tags : List (List α)} {value value' : Option (List α)}
  {values values' : List (Option (List α))}

instance [DecidableEq α] : Decidable (Free sep tags text) :=
  inferInstanceAs (Decidable (∀ tag ∈ tags, ¬ (sep :: tag) <:+: text))

theorem Separated.length_eq (separated : Separated sep tags values) :
    values.length = tags.length := by
  induction separated with
  | nil => rfl
  | absent _ ih => exact congrArg Nat.succ ih
  | present _ _ ih => exact congrArg Nat.succ ih

theorem Separated.cons (separated : Separated sep (tag :: tags) values) :
    ∃ value rest, values = value :: rest ∧ (∀ v ∈ value, Free sep tags v) ∧
      Separated sep tags rest := by
  cases separated with
  | absent rest => exact ⟨none, _, rfl, fun _ given => (Option.not_mem_none _ given).elim, rest⟩
  | @present _ v _ _ free rest =>
      exact ⟨some v, _, rfl, fun _ given => Option.mem_some_iff.mp given ▸ free, rest⟩

theorem Distinct.tail (distinct : Distinct sep (tag :: tags)) : Distinct sep tags where
  unbroken := fun _ member => distinct.unbroken _ (List.mem_cons_of_mem _ member)
  apart := (List.pairwise_cons.mp distinct.apart).2

theorem Free.tail (free : Free sep (tag :: tags) text) : Free sep tags text :=
  fun later member => free later (List.mem_cons_of_mem _ member)

theorem Free.of_infix (free : Free sep tags text) (inside : text' <:+: text) :
    Free sep tags text' := fun tag member line => free tag member (line.trans inside)

/-- A text before a line and the value of the line are free of the later tags together. -/
theorem Free.append_line (distinct : Distinct sep (tag :: tags)) (before : Free sep tags text)
    (after : ∀ v ∈ value, Free sep tags v) : Free sep tags (text ++ fieldLine sep tag value) := by
  cases value with
  | none => exact (List.append_nil text).symm ▸ before
  | some v =>
      intro later member inside
      have unbroken := distinct.unbroken later (List.mem_cons_of_mem _ member)
      rcases infix_append_sep unbroken inside with inside | start | inside
      · exact before later member inside
      · -- the line would start where this one does
        have apart := (List.pairwise_cons.mp distinct.apart).1 later member
        rcases List.prefix_or_prefix_of_prefix start (List.prefix_append tag v) with le | le
        · exact apart.2 le
        · exact apart.1 le
      · exact after v rfl later member
          (infix_of_unbroken (distinct.unbroken tag List.mem_cons_self) inside)

/-- After a text without such a line it is seen whether the field is there. -/
theorem append_line_inj (unbroken : sep ∉ tag) (fresh : ¬ (sep :: tag) <:+: text)
    (fresh' : ¬ (sep :: tag) <:+: text')
    (same : text ++ fieldLine sep tag value = text' ++ fieldLine sep tag value') :
    text = text' ∧ value = value' := by
  have holds : ∀ text v : List α, (sep :: tag) <:+: text ++ fieldLine sep tag (some v) :=
    fun text v => ⟨text, v, by simp [fieldLine]⟩
  cases value with
  | none =>
      have same : text = text' ++ fieldLine sep tag value' := (List.append_nil _).symm.trans same
      cases value' with
      | none => exact ⟨same.trans (List.append_nil _), rfl⟩
      | some v' => exact absurd (same ▸ holds text' v') fresh
  | some v =>
      cases value' with
      | none =>
          have same : text ++ fieldLine sep tag (some v) = text' := same.trans (List.append_nil _)
          exact absurd (same ▸ holds text v) fresh'
      | some v' =>
          obtain ⟨rfl, rfl⟩ := first_line_inj unbroken fresh fresh' same
          exact ⟨rfl, rfl⟩

/-- With separated values, the text says what stands before the fields and what they are. -/
theorem append_lines_inj (distinct : Distinct sep tags) (separated : Separated sep tags values)
    (separated' : Separated sep tags values') (free : Free sep tags text)
    (free' : Free sep tags text')
    (same : text ++ lines sep tags values = text' ++ lines sep tags values') :
    text = text' ∧ values = values' := by
  induction tags generalizing text text' values values' with
  | nil =>
      cases separated
      cases separated'
      exact ⟨List.append_cancel_right same, rfl⟩
  | cons tag tags ih =>
      obtain ⟨value, values, rfl, own, separated⟩ := separated.cons
      obtain ⟨value', values', rfl, own', separated'⟩ := separated'.cons
      -- the line of the first tag belongs to what stands before the others
      rw [lines_cons, lines_cons, ← List.append_assoc, ← List.append_assoc] at same
      obtain ⟨first, rfl⟩ := ih distinct.tail separated separated'
        (free.tail.append_line distinct own) (free'.tail.append_line distinct own') same
      obtain ⟨rfl, rfl⟩ := append_line_inj (distinct.unbroken tag List.mem_cons_self)
        (free tag List.mem_cons_self) (free' tag List.mem_cons_self) first
      exact ⟨rfl, rfl⟩

/-- Every text is a free text and the lines of separated values. -/
theorem exists_lines (sep : α) (tags : List (List α)) (text : List α) :
    ∃ before values, Free sep tags before ∧ Separated sep tags values ∧
      before ++ lines sep tags values = text := by
  induction tags with
  | nil =>
      exact ⟨text, [], fun _ member => absurd member List.not_mem_nil, .nil, List.append_nil _⟩
  | cons tag tags ih =>
      obtain ⟨before, values, free, separated, rfl⟩ := ih
      by_cases inside : (sep :: tag) <:+: before
      · obtain ⟨first, value, rfl, fresh⟩ := exists_first (List.cons_ne_nil sep tag) inside
        rw [List.append_assoc] at free
        have valueFree : Free sep tags value :=
          free.of_infix ((List.suffix_append _ _).trans (List.suffix_append _ _)).isInfix
        have firstFree : Free sep tags first := free.of_infix (List.prefix_append _ _).isInfix
        exact ⟨first, some value :: values, List.forall_mem_cons.mpr ⟨fresh, firstFree⟩,
          .present valueFree separated, by simp [lines]⟩
      · exact ⟨before, none :: values, List.forall_mem_cons.mpr ⟨inside, free⟩,
          .absent separated, rfl⟩

/-- Nothing is left of a text, or a line of one of the tags is next. -/
def Continues (sep : α) (tags : List (List α)) (rest : List α) : Prop :=
  rest = [] ∨ ∃ tag ∈ tags, (sep :: tag) <+: rest

theorem continues_lines (sep : α) (tags : List (List α)) (values : List (Option (List α))) :
    Continues sep tags (lines sep tags values) := by
  fun_induction lines sep tags values with
  | case1 tag tags value values ih =>
      exact .inr ⟨tag, List.mem_cons_self, by simp [List.prefix_append]⟩
  | case2 tag tags values ih =>
      rcases ih with ended | ⟨later, member, start⟩
      · exact .inl ended
      · exact .inr ⟨later, List.mem_cons_of_mem _ member, start⟩
  | case3 => exact .inl rfl

theorem Continues.eq_nil_or_cons {rest : List α} (continues : Continues sep tags rest) :
    rest = [] ∨ ∃ tail, rest = sep :: tail := by
  rcases continues with ended | ⟨tag, -, tail, rfl⟩
  · exact .inl ended
  · exact .inr ⟨tag ++ tail, rfl⟩

/-- What continues with a field is the text of separated values. -/
theorem Continues.exists_lines {rest : List α} (unbroken : ∀ tag ∈ tags, sep ∉ tag)
    (continues : Continues sep tags rest) :
    ∃ values, Separated sep tags values ∧ lines sep tags values = rest := by
  obtain ⟨before, values, free, separated, rfl⟩ := TaggedLines.exists_lines sep tags rest
  cases before with
  | nil => exact ⟨values, separated, rfl⟩
  | cons a before =>
      exfalso
      rcases continues with ended | ⟨tag, member, start⟩
      · exact List.cons_ne_nil _ _ ended
      · obtain ⟨rfl, line⟩ := List.cons_prefix_cons.mp start
        refine free tag member (line_infix_cons ?_)
        change tag <+: before ++ _ at line
        rcases (continues_lines sep tags values).eq_nil_or_cons with ended | ⟨tail, next⟩
        · rwa [ended, List.append_nil] at line
        · rw [next] at line
          exact prefix_append_sep (unbroken tag member) line

end

/-! ## A line that is always there -/

/-- The text holds no line of the mark that a field follows. -/
def Unmarked (sep : α) (mark : List α) (codes : Set (List α)) (tags : List (List α))
    (text : List α) : Prop :=
  ∀ code ∈ codes, ∀ tag ∈ tags, ¬ (sep :: (mark ++ code ++ sep :: tag)) <:+: text

section

variable {mark : List α} {codes : Set (List α)} {tags : List (List α)}

theorem code_gap_eq_nil {code gap rest rest' : List α} (unbroken : sep ∉ code ++ gap)
    (ends : rest = [] ∨ ∃ tail, rest = sep :: tail) (same : rest = gap ++ rest') : gap = [] := by
  cases gap with
  | nil => rfl
  | cons a gap =>
      rcases ends with rfl | ⟨tail, rfl⟩
      · exact absurd same (List.cons_ne_nil _ _).symm
      · obtain ⟨rfl, -⟩ := List.cons.inj same
        exact absurd (List.mem_append_right code List.mem_cons_self) unbroken

/-- A code ends where the text ends or a line starts. -/
theorem code_inj {code code' rest rest' : List α} (unbroken : sep ∉ code)
    (unbroken' : sep ∉ code') (ends : rest = [] ∨ ∃ tail, rest = sep :: tail)
    (ends' : rest' = [] ∨ ∃ tail, rest' = sep :: tail) (same : code ++ rest = code' ++ rest') :
    code = code' ∧ rest = rest' := by
  rcases List.append_eq_append_iff.mp same with ⟨gap, rfl, after⟩ | ⟨gap, rfl, after⟩
  · obtain rfl := code_gap_eq_nil unbroken' ends after
    exact ⟨(List.append_nil _).symm, after⟩
  · obtain rfl := code_gap_eq_nil unbroken ends' after
    exact ⟨List.append_nil _, after.symm⟩

/-- Of two such lines, the first is followed by a field inside the text before the second. -/
theorem mark_gap_eq_nil {code gap rest rest' : List α} (markUnbroken : sep ∉ mark)
    (codeUnbroken : sep ∉ code) (tagUnbroken : ∀ tag ∈ tags, sep ∉ tag)
    (apart : ∀ tag ∈ tags, ¬ mark <+: tag ∧ ¬ tag <+: mark) (member : code ∈ codes)
    (continues : Continues sep tags rest) (unmarked : Unmarked sep mark codes tags gap)
    (same : sep :: (mark ++ code ++ rest) = gap ++ sep :: (mark ++ rest')) : gap = [] := by
  cases gap with
  | nil => rfl
  | cons a gap =>
      obtain ⟨rfl, after⟩ := List.cons.inj same
      have unbroken : sep ∉ mark ++ code := by simp [markUnbroken, codeUnbroken]
      have differ : ∀ tag ∈ tags, ∀ {rest}, tag ++ rest ≠ mark ++ rest' := by
        intro tag listed rest start
        rcases List.prefix_or_prefix_of_prefix (List.prefix_append tag rest)
          (start ▸ List.prefix_append mark rest') with le | le
        · exact (apart tag listed).2 le
        · exact (apart tag listed).1 le
      rcases continues with rfl | ⟨tag, listed, rest, rfl⟩
      · rw [List.append_nil] at after
        exact absurd (after ▸ List.mem_append_right gap List.mem_cons_self) unbroken
      · rcases List.append_eq_append_iff.mp after with
          ⟨between, rfl, next⟩ | ⟨between, split, next⟩
        · cases between with
          | nil => exact absurd (List.cons.inj next).2 (differ tag listed)
          | cons b between =>
              obtain ⟨rfl, line⟩ := List.cons.inj next
              have line : tag ++ rest = between ++ sep :: (mark ++ rest') := line
              have start := prefix_append_sep (tagUnbroken tag listed)
                (line ▸ List.prefix_append tag rest)
              exact absurd (line_infix_cons ((List.prefix_append_right_inj _).mpr
                (List.cons_prefix_cons.mpr ⟨rfl, start⟩))) (unmarked code member tag listed)
        · cases between with
          | nil => exact absurd (List.cons.inj next).2.symm (differ tag listed)
          | cons b between =>
              obtain ⟨rfl, -⟩ := List.cons.inj next
              exact absurd (split ▸ List.mem_append_right gap List.mem_cons_self) unbroken

/-- The line that is always there is found again after an unmarked text. -/
theorem marked_inj {text text' code code' rest rest' : List α} (markUnbroken : sep ∉ mark)
    (codesUnbroken : ∀ code ∈ codes, sep ∉ code) (tagUnbroken : ∀ tag ∈ tags, sep ∉ tag)
    (apart : ∀ tag ∈ tags, ¬ mark <+: tag ∧ ¬ tag <+: mark) (member : code ∈ codes)
    (member' : code' ∈ codes) (continues : Continues sep tags rest)
    (continues' : Continues sep tags rest') (unmarked : Unmarked sep mark codes tags text)
    (unmarked' : Unmarked sep mark codes tags text')
    (same : text ++ sep :: (mark ++ code ++ rest) = text' ++ sep :: (mark ++ code' ++ rest')) :
    text = text' ∧ code = code' ∧ rest = rest' := by
  have places : text = text' := by
    rcases List.append_eq_append_iff.mp same with ⟨gap, rfl, after⟩ | ⟨gap, rfl, after⟩
    · rw [List.append_assoc mark code'] at after
      rw [mark_gap_eq_nil markUnbroken (codesUnbroken code member) tagUnbroken apart member
        continues (fun code member tag listed inside => unmarked' code member tag listed
          (List.infix_append_of_infix_right inside)) after, List.append_nil]
    · rw [List.append_assoc mark code] at after
      rw [mark_gap_eq_nil markUnbroken (codesUnbroken code' member') tagUnbroken apart member'
        continues' (fun code member tag listed inside => unmarked code member tag listed
          (List.infix_append_of_infix_right inside)) after, List.append_nil]
  subst places
  have after := (List.cons.inj (List.append_cancel_left same)).2
  rw [List.append_assoc, List.append_assoc] at after
  exact ⟨rfl, code_inj (codesUnbroken code member) (codesUnbroken code' member')
    continues.eq_nil_or_cons continues'.eq_nil_or_cons (List.append_cancel_left after)⟩

/-- Every text with such a line has one after an unmarked text. -/
theorem exists_marked (mark text code rest : List α) (member : code ∈ codes)
    (continues : Continues sep tags rest) :
    ∃ before, ∃ first ∈ codes, ∃ tail, Unmarked sep mark codes tags before ∧
      Continues sep tags tail ∧
        before ++ sep :: (mark ++ first ++ tail) = text ++ sep :: (mark ++ code ++ rest) := by
  by_cases unmarked : Unmarked sep mark codes tags text
  · exact ⟨text, code, member, rest, unmarked, continues, rfl⟩
  · simp only [Unmarked, not_forall, not_not] at unmarked
    obtain ⟨earlier, earlierMember, tag, listed, before, after, rfl⟩ := unmarked
    have shorter : before.length <
        (before ++ sep :: (mark ++ earlier ++ sep :: tag) ++ after).length := by
      simp only [List.length_append, List.length_cons]
      omega
    obtain ⟨found, first, firstMember, tail, unmarked, continues, split⟩ :=
      exists_marked mark before earlier (sep :: tag ++ (after ++ sep :: (mark ++ code ++ rest)))
        earlierMember (.inr ⟨tag, listed, List.prefix_append _ _⟩)
    refine ⟨found, first, firstMember, tail, unmarked, continues, split.trans ?_⟩
    simp only [List.append_assoc, List.cons_append]
termination_by text.length

end

end TaggedLines
