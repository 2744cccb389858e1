import SupportCrm.Effects
import SupportCrm.System

/-!
# Delivery

The outbound queue executes a job until one execution completes. `Delivers` says what kind
of program an execution is: it sends the parts of a reply one after another, and only after
the last of them writes the identifier of the first into the message row. From this follows
what a single execution leaves under any plan of failures (`Delivers.exec`), and from that
what all executions of a job leave together (`delivered_once_iff`).
-/

set_option autoImplicit false

namespace SupportCrm

open KeyedTable AtomicProgram

/-! ## Executions -/

/-- The record of what one job has sent. -/
def noteSent : Call → World → List SentMessage → List SentMessage
  | .telegram chatId method replyParameters part, w, sent =>
      sent ++ [⟨chatId, method, replyParameters, part, (w.send chatId method replyParameters part).1⟩]
  | _, _, sent => sent

/-- One execution as the failures and the other work of the system let it go. -/
abbrev Plan := Program.Plan World

/-- What others do to the world leaves the record of the job alone. -/
def recorded (plan : Plan) : Program.Plan (World × List SentMessage) where
  fate := plan.fate
  move n s := (plan.move n s.1, s.2)

/-- `OutboundProcessor.process` under a plan, with the record of what it sends. -/
def execution (job : OutboundReplyJob) (plan : Plan) (s : World × List SentMessage) :
    Option (Except Err Unit) × (World × List SentMessage) :=
  (processOutbound job).exec (Handler.observed World.perform noteSent) .unavailable
    (recorded plan) 0 s

/-- The executions of a job: the queue starts another one only when none has completed. -/
inductive Executions (job : OutboundReplyJob) :
    List Plan → World × List SentMessage → Bool → World × List SentMessage → Prop where
  | unstarted (s : World × List SentMessage) : Executions job [] s false s
  | completed {plan : Plan} {s s' : World × List SentMessage}
      (done : execution job plan s = (some (.ok ()), s')) : Executions job [plan] s true s'
  | repeated {plan : Plan} {plans : List Plan} {s s' s'' : World × List SentMessage}
      {result : Option (Except Err Unit)} {completed : Bool}
      (ended : execution job plan s = (result, s')) (failed : result ≠ some (.ok ()))
      (rest : Executions job plans s' completed s'') : Executions job (plan :: plans) s completed s''

/-! ## What an execution is -/

/-- A program that sends the parts of a reply from one on and then confirms the first that
was sent. -/
inductive Delivers (job : OutboundReplyJob) : ℕ → Option ℤ → App Unit → Prop where
  | sends (part : ℕ) (first : Option ℤ) (method : TelegramMethod) (replyParameters : Option ℤ)
      (next : Except Err ℤ → App Unit)
      (rest : ∀ messageId, Delivers job (part + 1) (first.or (some messageId)) (next (.ok messageId)))
      (ends : ∀ e, next (.error e) = .ret (.error e)) :
      Delivers job part first (.call (.telegram job.telegramChatId method replyParameters part) next)
  | confirms (part : ℕ) (messageId : ℤ) :
      Delivers job part (some messageId) (confirmOutgoingSent job.messageId messageId)

/-- The loop keeps the identifier that the first part got. -/
theorem delivers_sendAttachments (job : OutboundReplyJob) (text : String)
    (replyParameters : Option ℤ) (attachments : List OutboundAttachment) (index : ℕ)
    (first : Option ℤ) (started : first = none ↔ index = 0)
    (sends : first = none → attachments ≠ []) :
    Delivers job index first
      (sendAttachments job.telegramChatId text replyParameters index first attachments >>=
        fun firstTgMessageId => confirmOutgoingSent job.messageId (firstTgMessageId.getD 0)) := by
  induction attachments generalizing index first with
  | nil =>
      cases first with
      | none => exact absurd rfl (sends rfl)
      | some messageId => exact .confirms index messageId
  | cons attachment rest ih =>
      refine .sends index first _ _ _ (fun messageId => ?_) fun e => rfl
      have kept : first.or (some messageId) = if index = 0 then some messageId else first := by
        cases first with
        | none => rw [if_pos (started.mp rfl), Option.none_or]
        | some => rw [if_neg fun zero => Option.some_ne_none _ (started.mpr zero), Option.some_or]
      rw [kept]
      have held : (if index = 0 then some messageId else first) ≠ none := by
        rw [← kept]
        cases first <;> exact Option.some_ne_none _
      exact ih (index + 1) _ ⟨fun none => absurd none held, fun zero => absurd zero (by omega)⟩
        fun none => absurd none held

/-- **`OutboundProcessor.process` is such a program**, and sends something. -/
theorem delivers_processOutbound (job : OutboundReplyJob) :
    Delivers job 0 none (processOutbound job) := by
  unfold processOutbound sendReply
  split
  · refine .sends 0 none _ _ _ (fun messageId => ?_) fun e => rfl
    exact .confirms 1 messageId
  · next attachment rest given =>
    have sends := delivers_sendAttachments job job.text (job.replyToTgMessageId.filter (· ≠ 0))
      (attachment :: rest) 0 none (iff_of_true rfl rfl) fun _ => List.cons_ne_nil _ _
    simpa only [bind_assoc, pure_bind] using sends

/-! ## One execution -/

/-- The row of the job carries the identifier of a message that was sent for it. -/
def Carries (job : OutboundReplyJob) (s : World × List SentMessage) : Prop :=
  ∃ row sent, s.1.messages.find? job.messageId = some row ∧ sent ∈ s.2 ∧
    row.val.tgMessageId = some sent.messageId

theorem confirm_eq_ok {w : World} {messageId : MessageId} {tgMessageId : ℤ}
    (done : (w.perform (.messageConfirm messageId tgMessageId)).1 = .ok ()) :
    ∃ row, (w.perform (.messageConfirm messageId tgMessageId)).2.messages.find? messageId =
      some row ∧ row.val.tgMessageId = some tgMessageId := by
  have effect := World.effect_of_perform_ok done
  generalize (w.perform (.messageConfirm messageId tgMessageId)).2 = w' at effect ⊢
  obtain ⟨present, messages, changed, rfl⟩ :=
    World.messageConfirm_eq_ok (World.map_unit_eq_ok_iff.mp effect)
  obtain ⟨row, found⟩ := Option.isSome_iff_exists.mp present
  obtain rfl := Table.id_of_find? found
  refine ⟨row.change row.id (World.confirmed tgMessageId), ?_, ?_⟩
  · rw [Table.find?_modify? changed, found]
    rfl
  · rw [Entry.change_self]
    rfl

/-- The next command sends something. -/
def sendsNext (p : App Unit) : Bool :=
  match p.command? with
  | some (.telegram _ _ _ _) => true
  | _ => false

/-- **What an execution leaves.** It has sent parts one after another, and the messages go
to the chat of the job; when it completes, the row carries the first identifier. -/
theorem Delivers.exec {job : OutboundReplyJob} {part : ℕ} {first : Option ℤ} {p : App Unit}
    (delivers : Delivers job part first p) (plan : Plan) (n : ℕ) (s s' : World × List SentMessage)
    (result : Option (Except Err Unit))
    (ended : p.exec (Handler.observed World.perform noteSent) .unavailable (recorded plan) n s =
      (result, s')) :
    ∃ news, s'.2 = s.2 ++ news ∧ news.map SentMessage.part = List.range' part news.length ∧
      (news ≠ [] ↔ sendsNext p = true ∧ (plan.fate n).takesEffect = true) ∧
      (∀ sent ∈ news, sent.chatId = job.telegramChatId) ∧
      (result = some (.ok ()) → ∃ messageId row,
        first.or (news.head?.map SentMessage.messageId) = some messageId ∧
        s'.1.messages.find? job.messageId = some row ∧ row.val.tgMessageId = some messageId) := by
  induction delivers generalizing n s with
  | sends part first method replyParameters next rest ends ih =>
      have sendsNow : sendsNext (.call (.telegram job.telegramChatId method replyParameters part)
        next) = true := rfl
      simp only [Program.exec] at ended
      split at ended
      · next fate =>
        obtain ⟨news, log, parts, -, chat, completes⟩ := ih _ _ _ ended
        refine ⟨_ :: news, log.trans (List.append_cons _ _ _).symm, ?_, ?_, ?_,
          fun completed => ?_⟩
        · rw [List.map_cons, parts, List.length_cons, List.range'_succ]
        · exact iff_of_true (List.cons_ne_nil _ _) ⟨sendsNow, congrArg _ fate⟩
        · exact List.forall_mem_cons.mpr ⟨rfl, chat⟩
        · obtain ⟨messageId, row, own, stored⟩ := completes completed
          rw [Option.or_assoc, Option.some_or] at own
          exact ⟨messageId, row, own, stored⟩
      · next fate =>
        rw [ends] at ended
        cases ended
        exact ⟨[_], rfl, rfl, iff_of_true (List.cons_ne_nil _ _) ⟨sendsNow, congrArg _ fate⟩,
          List.forall_mem_singleton.mpr rfl, fun completed => (by cases completed)⟩
      · next fate =>
        rw [ends] at ended
        cases ended
        have refused : (plan.fate n).takesEffect = false := congrArg _ fate
        exact ⟨[], (List.append_nil _).symm, rfl, by simp [refused], List.forall_mem_nil _,
          fun completed => (by cases completed)⟩
      · next fate =>
        cases ended
        have refused : (plan.fate n).takesEffect = false := congrArg _ fate
        exact ⟨[], (List.append_nil _).symm, rfl, by simp [refused], List.forall_mem_nil _,
          fun completed => (by cases completed)⟩
  | confirms part messageId =>
      have silent : sendsNext (confirmOutgoingSent job.messageId messageId) = false := rfl
      simp only [confirmOutgoingSent, SupportCrm.perform, Program.perform, Program.exec] at ended
      split at ended <;> cases ended <;>
        refine ⟨[], (List.append_nil _).symm, rfl, by simp [silent], List.forall_mem_nil _,
          fun completed => ?_⟩
      · obtain ⟨row, found, own⟩ := confirm_eq_ok (Option.some.inj completed)
        exact ⟨messageId, row, rfl, found, own⟩
      all_goals cases completed

/-! ## All executions -/

theorem sendsNext_processOutbound (job : OutboundReplyJob) :
    sendsNext (processOutbound job) = true := by
  unfold processOutbound sendReply
  split <;> rfl

/-- The first command of an execution, which sends the first part, takes effect. -/
def opens (plan : Plan) : Bool := (plan.fate 0).takesEffect

/-- An execution sends every part once at most, and the first one if its first call takes
effect. -/
theorem execution_sends {job : OutboundReplyJob} {plan : Plan} {s s' : World × List SentMessage}
    {result : Option (Except Err Unit)} (ended : execution job plan s = (result, s')) :
    ∃ news, s'.2 = s.2 ++ news ∧
      (∀ part, news.countP (·.part = part) ≤ [plan].countP opens) ∧
      news.countP (·.part = 0) = [plan].countP opens := by
  obtain ⟨news, log, parts, first, -⟩ := (delivers_processOutbound job).exec plan 0 s s' result ended
  rw [sendsNext_processOutbound, eq_self, true_and] at first
  have counted : ∀ part, news.countP (·.part = part) = (List.range' 0 news.length).count part := by
    intro part
    rw [← parts, List.count, List.countP_map]
    exact List.countP_congr fun sent _ => by simp [Function.comp_apply]
  cases opened : opens plan with
  | false =>
      have none : news = [] := by_contra fun some => by
        cases opened.symm.trans (first.mp some)
      subst none
      exact ⟨[], log, fun _ => Nat.zero_le _, by simp [opened]⟩
  | true =>
      have some : 0 < news.length := List.length_pos_iff.mpr (first.mpr opened)
      refine ⟨news, log, fun part => ?_, ?_⟩
      · rw [counted, List.countP_singleton, opened]
        exact List.nodup_iff_count_le_one.mp List.nodup_range' part
      · rw [counted, List.countP_singleton, opened]
        exact List.count_eq_one_of_mem List.nodup_range' (List.mem_range'_1.mpr (by omega))

/-- Together the executions of a job send every part at most once for each execution whose
first call takes effect, and the first part exactly as often. -/
theorem executions_send {job : OutboundReplyJob} {plans : List Plan}
    {s s' : World × List SentMessage} {completed : Bool}
    (executions : Executions job plans s completed s') :
    ∃ news, s'.2 = s.2 ++ news ∧ (∀ part, news.countP (·.part = part) ≤ plans.countP opens) ∧
      news.countP (·.part = 0) = plans.countP opens := by
  induction executions with
  | unstarted s => exact ⟨[], (List.append_nil _).symm, fun _ => le_rfl, rfl⟩
  | completed done => exact execution_sends done
  | repeated ended failed rest ih =>
      next plan plans s₀ s₁ s₂ result completed =>
      obtain ⟨news, log, most, first⟩ := execution_sends ended
      obtain ⟨news', log', most', first'⟩ := ih
      have split : ∀ p : Plan → Bool, (plan :: plans).countP p =
          [plan].countP p + plans.countP p :=
        fun p => (congrArg (List.countP p) (List.singleton_append ..).symm).trans
          List.countP_append
      refine ⟨news ++ news', by rw [log', log, List.append_assoc], fun part => ?_, ?_⟩
      · rw [List.countP_append, split]
        exact Nat.add_le_add (most part) (most' part)
      · rw [List.countP_append, split, first, first']

theorem carries_of_completed {job : OutboundReplyJob} {plans : List Plan}
    {s s' : World × List SentMessage} {completed : Bool}
    (executions : Executions job plans s completed s') (done : completed = true) :
    Carries job s' := by
  induction executions with
  | unstarted s => cases done
  | repeated _ _ _ ih => exact ih done
  | completed ended =>
      obtain ⟨news, log, -, -, -, completes⟩ :=
        (delivers_processOutbound job).exec _ 0 _ _ _ ended
      obtain ⟨messageId, row, own, found, stored⟩ := completes rfl
      rw [Option.none_or] at own
      obtain ⟨sent, head, rfl⟩ := Option.map_eq_some_iff.mp own
      exact ⟨row, sent, found, log ▸ List.mem_append_right _ (List.mem_of_mem_head? head), stored⟩

/-- **Sent once unless started over.** However the Telegram calls and the confirmation fail,
and whatever else happens in between, no part of a reply is sent twice and a completed
execution leaves the row with the identifier of a message sent for it, if and only if at
most one execution gets its first call through. -/
theorem delivered_once_iff (job : OutboundReplyJob) (plans : List Plan) (w : World)
    (s : World × List SentMessage) (completed : Bool)
    (executions : Executions job plans (w, []) completed s) :
    (∀ part, s.2.countP (·.part = part) ≤ 1) ∧ (completed = true → Carries job s) ↔
      plans.countP opens ≤ 1 := by
  obtain ⟨news, log, most, first⟩ := executions_send executions
  rw [List.nil_append] at log
  subst log
  rw [and_iff_left (carries_of_completed executions)]
  constructor
  · intro once
    exact first ▸ once 0
  · intro once part
    exact (most part).trans once

/-! An agent answers the first message of a customer with two files. -/

namespace Answer

def stored : World :=
  World.seeded.after .default
    [.ingest (greeting 7), .reply ⟨0, 0, "Готово", some ["a.png", "b.pdf"], none⟩]
    (alone 20 ++ List.replicate 10 (.turn 1))

def job : OutboundReplyJob where
  ticketId := 0
  messageId := 2
  telegramChatId := -5
  text := "Готово"
  replyToTgMessageId := some 7
  attachments := some [⟨"a.png", "http://localhost:3000/uploads/a.png"⟩,
    ⟨"b.pdf", "http://localhost:3000/uploads/b.pdf"⟩]

/-- Everything succeeds. -/
def smooth : Plan := ⟨fun _ => .done, fun _ w => w⟩

/-- The second file is refused. -/
def halfway : Plan := ⟨fun n => if n = 1 then .fails else .done, fun _ w => w⟩

end Answer

/-- The second file is refused at first, and the retry sends the first one again. -/
theorem first_part_sent_twice :
    Answer.job ∈ Answer.stored.outbound ∧
      ∃ s, Executions Answer.job [Answer.halfway, Answer.smooth] (Answer.stored, []) true s ∧
        s.2.countP (·.part = 0) = 2 := by
  refine ⟨by decide, _, .repeated (by rfl) (by decide) (.completed (by rfl)), ?_⟩
  rfl

/-- Without failures both files are sent once. -/
theorem sent_once_without_failures :
    ∃ s, (∀ part, s.2.countP (·.part = part) ≤ 1) ∧ Carries Answer.job s := by
  have once := (delivered_once_iff Answer.job [Answer.smooth] Answer.stored _ true
    (.completed (by rfl))).mpr (by decide)
  exact ⟨_, once.1, once.2 rfl⟩

end SupportCrm
