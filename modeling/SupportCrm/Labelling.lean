import SupportCrm.Library.RelyGuarantee
import SupportCrm.System

/-!
# Labelling

A bulk request that adds a label reads the labels of a ticket in one step and replaces them
in a later one. Whatever was added in between is lost, unless the request knew of it:
`bulk_label_keeps` says that labels are only added, and that a request that ended well has
labelled every ticket it names, as long as no replacement is out of date
(`World.upToDate`).
-/

set_option autoImplicit false

namespace SupportCrm

open KeyedTable AtomicProgram

namespace World

variable {w w' : World}

/-- A command that replaces the labels of a ticket names all that the ticket has. -/
def upToDate (w : World) : Call → Bool
  | .patchTransaction id _ dto _ =>
      dto.labels.all fun labels => (labelsOf w.ticketLabels id).all fun label => label ∈ labels
  | _ => true

/-- No ticket has lost a label. -/
def Labels (w w' : World) : Prop :=
  ∀ id, ∀ label ∈ labelsOf w.ticketLabels id, label ∈ labelsOf w'.ticketLabels id

theorem Labels.refl (w : World) : w.Labels w := fun _ _ member => member

theorem Labels.trans (w w' w'' : World) (first : w.Labels w') (second : w'.Labels w'') :
    w.Labels w'' :=
  fun id label member => second id label (first id label member)

/-- A command that is not out of date takes no label away. -/
theorem labels_perform {c : Call} (upToDate : w.upToDate c = true) :
    w.Labels (w.perform c).2 := by
  have step := w.perform_step c
  generalize (w.perform c).2 = w' at step
  cases step
  case patch id data dto byAgentId ticketLabels present relabels =>
    intro other label member
    rw [relabels other]
    split
    · next own =>
      subst own
      cases named : dto.labels with
      | none => exact member
      | some labels =>
          simp only [World.upToDate, named, Option.all_some, List.all_eq_true,
            decide_eq_true_eq] at upToDate
          exact upToDate label member
    · exact member
  all_goals exact fun _ _ member => member

end World

/-! ## One request -/

/-- The program ends well only where `Q` holds, when nobody takes a label away. -/
abbrev EndsLabelled {α : Type} (p : App α) (Q : World → Prop) (w : World) : Prop :=
  Sat World.perform World.Labels (fun c w => w.upToDate c = true) (fun _ _ => True) p
    (fun r w => (∃ a, r = .ok a) → Q w) w

section Labelled

variable {α β : Type} {w : World}

/-- What the second part needs holds where the first one ends well. -/
theorem endsLabelled_bind {p : App β} {k : β → App α} {P Q : World → Prop}
    (first : EndsLabelled p P w) (rest : ∀ b w, P w → EndsLabelled (k b) Q w) :
    EndsLabelled (p >>= k) Q w := by
  refine sat_bind World.Labels.refl (first.mono fun r w post => ?_)
  cases r with
  | ok b => exact rest b w (post ⟨b, rfl⟩)
  | error e => exact fun ⟨_, failed⟩ => nomatch failed

theorem endsLabelled_true (p : App α) : EndsLabelled p (fun _ => True) w :=
  sat_of_always (Program.always_true p) (fun _ _ _ => trivial) fun _ _ _ => trivial

/-- What is not lost with labels that stay is not lost on the way. -/
theorem EndsLabelled.keeping {p : App α} {F Q : World → Prop} (ends : EndsLabelled p Q w)
    (kept : ∀ w w', w.Labels w' → F w → F w') (holds : F w) :
    EndsLabelled p (fun w => Q w ∧ F w) w := by
  have commands : ∀ c w, World.upToDate w c = true → F w → F (World.perform c w).2 :=
    fun c w upToDate => kept w _ (World.labels_perform upToDate)
  exact (Sat.keeping kept commands ends holds).mono fun _ _ post ok => ⟨post.1 ok, post.2⟩

/-- The ticket has the label. -/
def Labelled (labelId : LabelId) (id : TicketId) (w : World) : Prop :=
  labelId ∈ World.labelsOf w.ticketLabels id

theorem Labelled.kept {labelId : LabelId} {id : TicketId} (w w' : World) (labels : w.Labels w')
    (labelled : Labelled labelId id w) : Labelled labelId id w' :=
  labels id labelId labelled

theorem endsLabelled_patch {labelId : LabelId} {labels : List LabelId} (id : TicketId)
    (byAgentId : Option AgentId) (named : labelId ∈ labels) :
    EndsLabelled (patch id { labels := some labels } byAgentId) (Labelled labelId id) w := by
  refine endsLabelled_bind (endsLabelled_true _) fun _ w _ => ?_
  refine endsLabelled_bind (endsLabelled_true _) fun data w _ => ?_
  refine sat_perform_bind (fun _ _ _ => trivial) (fun w' view _ _ ok => ?_)
    fun _ _ _ _ _ _ _ ⟨_, failed⟩ => nomatch failed
  have labelled : Labelled labelId id (w'.perform (.patchTransaction id data
      { labels := some labels } byAgentId)).2 := by
    obtain ⟨-, ticketLabels, relabels, same⟩ :=
      World.patchTransaction_eq_ok (World.effect_of_perform_ok ok)
    rw [Labelled, same, relabels id, if_pos rfl]
    exact named
  exact ((endsLabelled_true _).keeping Labelled.kept labelled).mono fun _ _ post ok => (post ok).2

theorem endsLabelled_bulkOne (labelId : LabelId) (byAgentId : AgentId) (id : TicketId) :
    EndsLabelled (bulkOne (.label (some labelId)) byAgentId id) (Labelled labelId id) w := by
  refine endsLabelled_bind (endsLabelled_true _) fun ticket w _ =>
    endsLabelled_patch id (some byAgentId) ?_
  split
  · assumption
  · exact List.mem_append_right _ (List.mem_singleton_self labelId)

/-- Round after round the tickets get the label, and keep it. -/
theorem endsLabelled_bulk (labelId : LabelId) (byAgentId : AgentId) (ids : List TicketId) :
    EndsLabelled (bulk (.label (some labelId)) byAgentId ids)
      (fun w => ∀ id ∈ ids, Labelled labelId id w) w := by
  induction ids generalizing w with
  | nil => exact sat_pure fun _ _ _ _ member => nomatch member
  | cons id rest ih =>
      refine endsLabelled_bind (endsLabelled_bulkOne labelId byAgentId id) fun result w first => ?_
      refine endsLabelled_bind (ih.keeping Labelled.kept first) fun results w all => ?_
      refine sat_pure fun w' labels _ other member => ?_
      rcases List.mem_cons.mp member with rfl | listed
      · exact all.2.kept w w' labels
      · exact (all.1 other listed).kept w w' labels

end Labelled

/-- **Concurrent labelling loses nothing while no replacement is out of date.** Requests
interleave in any way, and every transaction that replaces the labels of a ticket names all
that the ticket has when it is performed. Then no ticket has lost a label, and a bulk request
that ended well has labelled every ticket it names. -/
theorem bulk_label_keeps (config : Config) (requests : List Request) (w : World)
    (schedule : List (Act ℕ))
    (upToDate : (Requests.start config requests w).Meets (fun _ => World.perform) World.advance
      (fun _ c w => w.upToDate c = true) (fun _ _ => True) schedule)
    (i : ℕ) (labelId : LabelId) (byAgentId : AgentId) (ids : List TicketId)
    (given : requests[i]? = some (.bulk (.label (some labelId)) byAgentId ids))
    (ended : ((Requests.start config requests w).exec schedule).programs[i]? =
      some (.ret (.ok ()))) :
    ∀ id ∈ ids,
      labelId ∈ World.labelsOf (w.after config requests schedule).ticketLabels id ∧
        ∀ label ∈ World.labelsOf w.ticketLabels id,
          label ∈ World.labelsOf (w.after config requests schedule).ticketLabels id := by
  have sats : (Requests.start config requests w).Sats (fun _ => World.perform)
      (fun _ => World.Labels) (fun _ c w => w.upToDate c = true) (fun _ _ _ => True)
      fun j r w => j = i → (∃ a, r = .ok a) → ∀ id ∈ ids, Labelled labelId id w := by
    intro j p present
    obtain ⟨request, listed, rfl⟩ := Option.map_eq_some_iff.mp
      (List.getElem?_map.symm.trans present)
    by_cases own : j = i
    · subst own
      cases listed.symm.trans given
      have ends : EndsLabelled (discard (bulk (.label (some labelId)) byAgentId ids) : App Unit)
          (fun w => ∀ id ∈ ids, Labelled labelId id w) w := by
        refine endsLabelled_bind (endsLabelled_bulk labelId byAgentId ids) fun results w all => ?_
        exact sat_pure fun w' labels _ id member => (all id member).kept w w' labels
      exact ends.mono fun _ _ post _ => post
    · exact sat_of_always (Program.always_true _) (fun _ _ _ => trivial)
        fun _ _ same => absurd same own
  have commands : ∀ c w, World.upToDate w c = true → w.Labels (World.perform c w).2 :=
    fun c w upToDate => World.labels_perform upToDate
  have clock : ∀ milliseconds w, World.Labels w (World.advance milliseconds w) :=
    fun milliseconds w _ _ member => member
  obtain ⟨-, left⟩ := Pool.sats_exec (fun _ => World.Labels.refl) (fun _ => World.Labels.trans)
    (fun _ _ _ c w upToDate _ => commands c w upToDate)
    (fun _ milliseconds w _ => clock milliseconds w) upToDate sats
  have labels : w.Labels (w.after config requests schedule) := by
    refine Pool.invariant_exec (I := w.Labels) ?_ ?_ upToDate (World.Labels.refl w)
    · exact fun _ c w' upToDate moved => World.Labels.trans _ _ _ moved (commands c w' upToDate)
    · exact fun milliseconds w' _ moved => World.Labels.trans _ _ _ moved (clock milliseconds w')
  have all := Pool.Sats.result (fun _ => World.Labels.refl) left ended rfl ⟨(), rfl⟩
  exact fun id member => ⟨all id member, labels id⟩

/-! Two agents label the same ticket. -/

namespace Triage

/-- A ticket and two labels. -/
def store : World :=
  { World.seeded.after .default [.ingest (greeting 7)] (alone 20) with
    labels := (Table.empty.insert ⟨"billing", "#d00"⟩ (by decide)).insert ⟨"vip", "#fa0"⟩
      (by decide) }

def requests : List Request := [.bulk (.label (some 0)) 0 [0], .bulk (.label (some 1)) 0 [0]]

/-- Both read the labels before one of them writes. -/
def race : List (Act ℕ) :=
  [.turn 0, .turn 1] ++ List.replicate 5 (.turn 0) ++ List.replicate 5 (.turn 1)

def inTurn : List (Act ℕ) := List.replicate 6 (.turn 0) ++ List.replicate 6 (.turn 1)

end Triage

/-- Both requests end well, and the label of the first is gone. -/
theorem label_lost_in_race :
    ((Requests.start .default Triage.requests Triage.store).exec Triage.race).programs =
        [.ret (.ok ()), .ret (.ok ())] ∧
      World.labelsOf (Triage.store.after .default Triage.requests Triage.race).ticketLabels 0 =
        [1] :=
  ⟨by rfl, by decide⟩

theorem label_kept_in_turn :
    0 ∈ World.labelsOf
      (Triage.store.after .default Triage.requests Triage.inTurn).ticketLabels 0 :=
  (bulk_label_keeps .default Triage.requests Triage.store Triage.inTurn (by decide) 0 0 0 [0] rfl
    (by rfl) 0 (by decide)).1

end SupportCrm
