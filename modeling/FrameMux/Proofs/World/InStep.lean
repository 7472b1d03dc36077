/-
**Two supervisors in step.**

Two supervisors that see the same of a worker ask the process manager for the same, and as long as
they get the same answers they go on seeing the same.  So their calls for the worker are the same, or
they part ways at an answer; this module says so for everything that is done for a worker.

Main definitions:

* `FrameMux.Request`, `FrameMux.Call.request` — what is asked of the process manager;
* `FrameMux.Parted` — two records of calls **part ways** at the answers to one request;
* `FrameMux.Answered` — answers that depend on nothing but the calls before;
* `FrameMux.Supervisor.InStep` — **two supervisors do the same** for a worker, or the answers differ.

Main results:

* `FrameMux.not_parted_of_answered` — records with the same such answers do not part ways;
* `FrameMux.Supervisor.inStep_tickWorker` and the like — **every operation** on a worker goes in step.
-/

import FrameMux.Proofs.Supervisor.View
import FrameMux.Proofs.World.Parts

set_option relaxedAutoImplicit false
set_option autoImplicit false

namespace FrameMux

/-! ### Requests and answers -/

/-- What is asked of the process manager. -/
inductive Request where
  | spawn (id : WorkerId) (source : String)
  | kill (pid : Int)
  | reap (pid : Int)
deriving DecidableEq, Repr

/-- A call without its answer. -/
def Call.request : Call → Request
  | spawn id source _ => .spawn id source
  | kill pid _ => .kill pid
  | reap pid _ => .reap pid

/-- Two records of calls part ways: up to some point they are the same, and then the same request gets
different answers. -/
def Parted (calls calls' : List Call) : Prop :=
  ∃ before call call' after after', calls = before ++ call :: after ∧
    calls' = before ++ call' :: after' ∧ call.request = call'.request ∧ call ≠ call'

/-- Every call of a record is answered according to the calls before it and to what is asked. -/
def Answered (oracle : List Call → Request → Call) (calls : List Call) : Prop :=
  ∀ before call after, calls = before ++ call :: after → call = oracle before call.request

/-- No call. -/
theorem answered_nil (oracle : List Call → Request → Call) : Answered oracle [] := by
  intro before made after split
  cases before <;> cases split

/-- A single call. -/
theorem answered_singleton (call : Call) : Answered (fun _ _ => call) [call] := by
  intro before made after split
  cases before with
  | nil => exact (List.cons.inj split).1.symm
  | cons _ before => cases before <;> cases split

/-- Answers that depend on nothing but the calls before do not part ways. -/
theorem not_parted_of_answered {oracle : List Call → Request → Call} {calls calls' : List Call}
    (h : Answered oracle calls) (h' : Answered oracle calls') : ¬ Parted calls calls' := by
  rintro ⟨before, call, call', after, after', rfl, rfl, asked, differ⟩
  refine differ ?_
  calc call = oracle before call.request := h before call after rfl
    _ = oracle before call'.request := by rw [asked]
    _ = call' := (h' before call' after' rfl).symm

namespace Parted

variable {calls calls' : List Call}

/-- Two calls with different answers. -/
theorem of_ne {call call' : Call} (asked : call.request = call'.request) (differ : call ≠ call')
    (after after' : List Call) : Parted (call :: after) (call' :: after') :=
  ⟨[], call, call', after, after', rfl, rfl, asked, differ⟩

/-- It does not matter which record is the first. -/
theorem symm (h : Parted calls calls') : Parted calls' calls := by
  obtain ⟨before, call, call', after, after', split, split', asked, differ⟩ := h
  exact ⟨before, call', call, after', after, split', split, asked.symm, differ.symm⟩

/-- Calls before do not matter. -/
theorem append_left (h : Parted calls calls') (earlier : List Call) :
    Parted (earlier ++ calls) (earlier ++ calls') := by
  obtain ⟨before, call, call', after, after', rfl, rfl, asked, differ⟩ := h
  exact ⟨earlier ++ before, call, call', after, after', (List.append_assoc ..).symm,
    (List.append_assoc ..).symm, asked, differ⟩

/-- Nor do calls after. -/
theorem append_right (h : Parted calls calls') (later later' : List Call) :
    Parted (calls ++ later) (calls' ++ later') := by
  obtain ⟨before, call, call', after, after', rfl, rfl, asked, differ⟩ := h
  exact ⟨before, call, call', after ++ later, after' ++ later', by simp, by simp, asked, differ⟩

end Parted

namespace Supervisor

/-! ### In step -/

section

variable {σ τ : Type} {s s' s'' : Supervisor (Recorder σ)} {t t' t'' : Supervisor (Recorder τ)}
  {id : WorkerId}

/-- What the supervisors `s` and `t` do for a worker until they are `s'` and `t'` goes in step: the
calls part ways, or they are the same and the worker looks the same afterwards. -/
def InStep (id : WorkerId) (s s' : Supervisor (Recorder σ)) (t t' : Supervisor (Recorder τ)) : Prop :=
  ∃ new new', s'.manager.calls = s.manager.calls ++ new ∧ t'.manager.calls = t.manager.calls ++ new' ∧
    (Parted new new' ∨ (new = new' ∧ s'.view id = t'.view id))

/-- Nothing is called. -/
theorem inStep_of_view (calls : s'.manager.calls = s.manager.calls)
    (calls' : t'.manager.calls = t.manager.calls) (same : s'.view id = t'.view id) :
    InStep id s s' t t' :=
  ⟨[], [], by rw [calls, List.append_nil], by rw [calls', List.append_nil], Or.inr ⟨rfl, same⟩⟩

/-- The same is asked once. -/
theorem inStep_of_call {call call' : Call} (made : s'.manager.calls = s.manager.calls ++ [call])
    (made' : t'.manager.calls = t.manager.calls ++ [call']) (asked : call.request = call'.request)
    (look : call = call' → s'.view id = t'.view id) : InStep id s s' t t' := by
  refine ⟨[call], [call'], made, made', ?_⟩
  by_cases answers : call = call'
  · exact Or.inr ⟨congrArg (fun call => [call]) answers, look answers⟩
  · exact Or.inl (.of_ne asked answers [] [])

/-- One thing after another. -/
theorem InStep.trans (h : InStep id s s' t t')
    (calls : ∃ new, s''.manager.calls = s'.manager.calls ++ new)
    (calls' : ∃ new, t''.manager.calls = t'.manager.calls ++ new)
    (next : s'.view id = t'.view id → InStep id s' s'' t' t'') : InStep id s s'' t t'' := by
  obtain ⟨first, first', made, made', parted | ⟨rfl, same⟩⟩ := h
  · obtain ⟨new, made₁⟩ := calls
    obtain ⟨new', made₁'⟩ := calls'
    exact ⟨first ++ new, first' ++ new', by rw [made₁, made, List.append_assoc],
      by rw [made₁', made', List.append_assoc], Or.inl (parted.append_right new new')⟩
  · obtain ⟨new, new', made₁, made₁', outcome⟩ := next same
    refine ⟨first ++ new, first ++ new', by rw [made₁, made, List.append_assoc],
      by rw [made₁', made', List.append_assoc], ?_⟩
    rcases outcome with parted | ⟨rfl, same⟩
    · exact Or.inl (parted.append_left first)
    · exact Or.inr ⟨rfl, same⟩

end

/-! ### Chains of events -/

variable {σ τ : Type} [ProcessManager σ] [ProcessManager τ] {s : Supervisor (Recorder σ)}
  {t : Supervisor (Recorder τ)} {id : WorkerId}

omit [ProcessManager σ] in
/-- Burying calls nobody. -/
theorem calls_bury (s : Supervisor (Recorder σ)) (id : WorkerId) (now : Instant) :
    (s.bury id now).manager = s.manager := by
  simp [bury]

/-- Reaping a zombie asks for one thing. -/
theorem calls_reapAndBury (s : Supervisor (Recorder σ)) (id : WorkerId) (pid : Int) (now : Instant) :
    (s.reapAndBury id (some pid) now).manager.calls =
      s.manager.calls ++ [.reap pid (ProcessManager.reap s.manager pid).1] := by
  rw [reapAndBury]
  split
  · rw [calls_bury]
    rfl
  · rfl

/-- The same answers to a reap tell the same of the process. -/
theorem reapedDead_eq {pid : Int} (answers : Call.reap pid (ProcessManager.reap s.manager pid).1 =
    .reap pid (ProcessManager.reap t.manager pid).1) : s.reapedDead pid = t.reapedDead pid := by
  rw [reapedDead, (Call.reap.inj answers).2, reapedDead]

/-- Reaping a zombie goes in step. -/
theorem inStep_reapAndBury (same : s.view id = t.view id) (process : Option Int) (now : Instant) :
    InStep id s (s.reapAndBury id process now) t (t.reapAndBury id process now) := by
  cases process with
  | none =>
      refine inStep_of_view (congrArg _ (s.calls_bury id now)) (congrArg _ (t.calls_bury id now)) ?_
      rw [reapAndBury, reapAndBury, view_bury, view_bury, same]
  | some pid =>
      refine inStep_of_call (s.calls_reapAndBury id pid now) (t.calls_reapAndBury id pid now) rfl ?_
      intro answers
      have after : (s.afterReap pid).view id = (t.afterReap pid).view id := same
      rw [reapAndBury, reapAndBury, reapedDead_eq answers]
      split
      · rw [view_bury, view_bury, view_forgetPid, view_forgetPid, after]
      · exact after

/-- Killing an infected worker, and reaping it, only adds calls. -/
theorem calls_killAndReap (s : Supervisor (Recorder σ)) (id : WorkerId) (pid : Int) (now : Instant) :
    ∃ after, (s.killAndReap id (some pid) now).manager.calls =
      s.manager.calls ++ .kill pid (ProcessManager.kill s.manager pid).1 :: after := by
  rw [killAndReap]
  split
  · refine ⟨[.reap pid (ProcessManager.reap (s.afterKill pid).manager pid).1], ?_⟩
    rw [calls_reapAndBury]
    exact List.append_assoc ..
  · exact ⟨[], rfl⟩

/-- Killing an infected worker goes in step. -/
theorem inStep_killAndReap (same : s.view id = t.view id) (process : Option Int) (now : Instant) :
    InStep id s (s.killAndReap id process now) t (t.killAndReap id process now) := by
  cases process with
  | none =>
      have zombie : (s.enter id .zombie now).view id = (t.enter id .zombie now).view id := by
        rw [view_enter, view_enter, same]
      exact inStep_reapAndBury zombie none now
  | some pid =>
      by_cases answers : (ProcessManager.kill s.manager pid).1 = (ProcessManager.kill t.manager pid).1
      · have asked : InStep id s (s.afterKill pid) t (t.afterKill pid) :=
          inStep_of_call rfl rfl rfl fun _ => same
        rw [killAndReap, killAndReap, answers]
        split
        · have reaps {ρ : Type} [ProcessManager ρ] (s : Supervisor (Recorder ρ)) :=
            s.calls_reapAndBury id pid now
          refine asked.trans ⟨_, reaps _⟩ ⟨_, reaps _⟩ ?_
          intro same
          have zombie : ((s.afterKill pid).enter id .zombie now).view id =
              ((t.afterKill pid).enter id .zombie now).view id := by
            rw [view_enter, view_enter, same]
          exact inStep_reapAndBury zombie (some pid) now
        · exact asked
      · obtain ⟨after, made⟩ := s.calls_killAndReap id pid now
        obtain ⟨after', made'⟩ := t.calls_killAndReap id pid now
        refine ⟨_, _, made, made', Or.inl (.of_ne ?_ ?_ after after')⟩
        · rfl
        · exact fun eq => answers (Call.kill.inj eq).2

/-- Starting a worker's process asks for one thing. -/
theorem calls_launch (s : Supervisor (Recorder σ)) (id : WorkerId) (w : Worker) (now : Instant) :
    (s.launch id w now).manager.calls =
      s.manager.calls ++ [.spawn id w.source (ProcessManager.spawn s.manager id w.source).1] := by
  unfold launch
  split
  · rfl
  · rw [manager_enter, (linksOnly_adopt _ _ _).manager]
    rfl

/-- Starting the process of a worker without a link goes in step. -/
theorem inStep_launch {w : Worker} (same : s.view id = t.view id) (named : w.id = id)
    (known : s.worker? id = some w) (known' : t.worker? id = some w) (unlinked : w.channels = none)
    (now : Instant) : InStep id s (s.launch id w now) t (t.launch id w now) := by
  refine inStep_of_call (s.calls_launch id w now) (t.calls_launch id w now) rfl ?_
  intro answers
  have attempted : ((s.noteAttempt id now).afterSpawn id w.source).view id =
      ((t.noteAttempt id now).afterSpawn id w.source).view id := by
    show (s.noteAttempt id now).view id = (t.noteAttempt id now).view id
    rw [view_noteAttempt, view_noteAttempt, same]
  unfold launch
  rw [(Call.spawn.inj answers).2.2]
  split
  · exact attempted
  · subst named
    rw [view_enter, view_enter, view_adopt (record_attempted known now w.source) unlinked,
      view_adopt (record_attempted known' now w.source) unlinked, attempted]

/-- Starting a buried worker again goes in step. -/
theorem inStep_relaunch {w : Worker} {n : Nat} (same : s.view id = t.view id) (fit : s.Fit id)
    (known : s.worker? id = some w) (known' : t.worker? id = some (w.renumber n))
    (buried : w.state = .buried) (now : Instant) :
    InStep id s ((s.enter id .creating now).launch id (w.enter .creating now) now) t
      ((t.enter id .creating now).launch id ((w.renumber n).enter .creating now) now) := by
  have unlinked : w.channels = none := fit.apart w known (Or.inr buried)
  rw [Worker.renumber_of_unlinked unlinked] at known' ⊢
  have creating : (s.enter id .creating now).view id = (t.enter id .creating now).view id := by
    rw [view_enter, view_enter, same]
  exact inStep_launch (w := w.enter .creating now) creating (fit.named w known)
    (record_enter known .creating now) (record_enter known' .creating now) unlinked now

/-! ### Operations -/

/-- An event from outside goes in step. -/
theorem inStep_handleEvent (same : s.view id = t.view id) (fit : s.Fit id) (fit' : t.Fit id)
    {event : LifecycleEvent} (external : event.external = true) (now : Instant) :
    InStep id s (s.handleEvent id event now) t (t.handleEvent id event now) := by
  rcases twins_of_view same with ⟨unknown, unknown'⟩ | ⟨w, n, known, known', -⟩
  · rw [handleEvent, handleChain_of_unknown unknown, handleEvent, handleChain_of_unknown unknown']
    exact inStep_of_view rfl rfl same
  · rcases external_cases external w.state with idle | ⟨alive, condemns⟩ | ⟨buried, rfl⟩
    · rw [handleEvent_of_idle known now idle, handleEvent_of_idle known' now idle]
      exact inStep_of_view rfl rfl same
    · rw [handleEvent_of_alive known alive now condemns,
        handleEvent_of_alive known' alive now condemns]
      have infected : (s.enter id .infected now).view id = (t.enter id .infected now).view id := by
        rw [view_enter, view_enter, same]
      exact inStep_killAndReap infected w.pid now
    · rw [handleEvent_of_buried known (fit.named w known) buried,
        handleEvent_of_buried known' (fit'.named _ known') buried]
      exact inStep_relaunch same fit known known' buried now

/-- Trying an owed effect again goes in step. -/
theorem inStep_retry (same : s.view id = t.view id) (fit : s.Fit id) (fit' : t.Fit id)
    (effect : Effect) (now : Instant) :
    InStep id s (s.retry id effect now) t (t.retry id effect now) := by
  have owed : s.owed id = t.owed id := by
    rcases twins_of_view same with ⟨unknown, unknown'⟩ | ⟨w, n, known, known', -⟩
    · rw [Supervisor.owed, unknown, Supervisor.owed, unknown']
    · rw [Supervisor.owed, known, Supervisor.owed, known']
      rfl
  by_cases owes : s.owed id = some effect
  · rcases twins_of_view same with ⟨unknown, -⟩ | ⟨w, n, known, known', -⟩
    · rw [Supervisor.owed, unknown] at owes
      cases owes
    · rw [Supervisor.owed, known] at owes
      change w.state.owed = some effect at owes
      cases state : w.state with
      | creating =>
          rw [state] at owes
          cases owes
          have unlinked : w.channels = none := fit.apart w known (Or.inl state)
          rw [Worker.renumber_of_unlinked unlinked] at known'
          rw [retry_of_creating known (fit.named w known) state,
            retry_of_creating known' (fit'.named w known') state]
          exact inStep_launch same (fit.named w known) known known' unlinked now
      | infected =>
          rw [state] at owes
          cases owes
          rw [retry_of_infected known state, retry_of_infected known' state]
          exact inStep_killAndReap same w.pid now
      | zombie =>
          rw [state] at owes
          cases owes
          rw [retry_of_zombie known state, retry_of_zombie known' state]
          exact inStep_reapAndBury same w.pid now
      | purged =>
          rw [state] at owes
          cases owes
          rw [retry_of_purged known state, retry_of_purged known' state]
          refine inStep_of_view (by simp) (by simp) ?_
          rw [view_enter, view_enter, view_releaseChannels, view_releaseChannels, same]
      | alive | buried =>
          rw [state] at owes
          cases owes
  · rw [retry_of_not_owed owes, retry_of_not_owed (owed ▸ owes)]
    exact inStep_of_view rfl rfl same

/-- The watchdog's look at a worker goes in step. -/
theorem inStep_judge (same : s.view id = t.view id) (policy : s.policy = t.policy) (now : Instant) :
    InStep id s (s.judge id now) t (t.judge id now) := by
  rcases twins_of_view same with ⟨unknown, unknown'⟩ | ⟨w, n, known, known', -⟩
  · rw [judge_of_unknown unknown, judge_of_unknown unknown']
    exact inStep_of_view rfl rfl same
  · have verdict := w.verdict?_renumber n s.policy now
    cases raised : w.verdict? s.policy now with
    | none =>
        rw [raised, policy] at verdict
        rw [judge_of_acquitted known raised, judge_of_acquitted known' verdict]
        exact inStep_of_view rfl rfl same
    | some event =>
        rw [raised, policy] at verdict
        rw [judge_of_condemned known raised, judge_of_condemned known' verdict]
        have infected : (s.enter id .infected now).view id = (t.enter id .infected now).view id := by
          rw [view_enter, view_enter, same]
        exact inStep_killAndReap infected w.pid now

/-- What a worker is due for goes in step. -/
theorem inStep_advance (same : s.view id = t.view id) (policy : s.policy = t.policy)
    (fit : s.Fit id) (fit' : t.Fit id) (now : Instant) :
    InStep id s (s.advance id now) t (t.advance id now) := by
  rcases twins_of_view same with ⟨unknown, unknown'⟩ | ⟨w, n, known, known', -⟩
  · rw [advance_of_unknown unknown, advance_of_unknown unknown']
    exact inStep_of_view rfl rfl same
  · cases state : w.state with
    | alive =>
        rw [advance_of_alive known state, advance_of_alive known' state]
        exact inStep_of_view rfl rfl same
    | creating =>
        have unlinked : w.channels = none := fit.apart w known (Or.inl state)
        rw [Worker.renumber_of_unlinked unlinked] at known'
        have due : s.spawnDue w now = t.spawnDue w now := by rw [spawnDue, policy, spawnDue]
        rw [advance_of_creating known (fit.named w known) state,
          advance_of_creating known' (fit'.named w known') state, due]
        split
        · exact inStep_launch same (fit.named w known) known known' unlinked now
        · exact inStep_of_view rfl rfl same
    | infected =>
        rw [advance_of_infected known state, advance_of_infected known' state]
        exact inStep_killAndReap same w.pid now
    | zombie =>
        rw [advance_of_zombie known state, advance_of_zombie known' state]
        exact inStep_reapAndBury same w.pid now
    | purged =>
        rw [advance_of_purged known state, advance_of_purged known' state]
        refine inStep_of_view (by simp) (by simp) ?_
        rw [view_enter, view_enter, view_releaseChannels, view_releaseChannels, same]
    | buried =>
        rw [advance_of_buried known (fit.named w known) state,
          advance_of_buried known' (fit'.named _ known') state, policy]
        show InStep id s (if _ ≤ now.since w.since then _ else s) t
          (if _ ≤ now.since w.since then _ else t)
        split
        · exact inStep_relaunch same fit known known' state now
        · exact inStep_of_view rfl rfl same

/-- **A worker's turn in a round goes in step.** -/
theorem inStep_tickWorker (same : s.view id = t.view id) (policy : s.policy = t.policy)
    (fit : s.Fit id) (fit' : t.Fit id) (now : Instant) :
    InStep id s (s.tickWorker now id) t (t.tickWorker now id) := by
  have judged := moves_judge fit.named now
  have judged' := moves_judge fit'.named now
  refine (inStep_judge same policy now).trans
    (moves_advance (judged.named fit.named) now).calls
    (moves_advance (judged'.named fit'.named) now).calls ?_
  intro same
  have policy : (s.judge id now).policy = (t.judge id now).policy := by
    rw [judged.policy, judged'.policy, policy]
  exact inStep_advance same policy (judged.fit fit) (judged'.fit fit') now

omit [ProcessManager σ] [ProcessManager τ] in
/-- The process of a worker, where the worker looks the same. -/
theorem pid_of_view (same : s.view id = t.view id) :
    (s.worker? id).bind (·.pid) = (t.worker? id).bind (·.pid) := by
  rcases twins_of_view same with ⟨unknown, unknown'⟩ | ⟨w, n, known, known', -⟩
  · rw [unknown, unknown']
  · rw [known, known']
    rfl

/-- Killing a worker's process at the end goes in step. -/
theorem inStep_killProcess (same : s.view id = t.view id) :
    InStep id s (s.killProcess id) t (t.killProcess id) := by
  unfold killProcess
  rw [pid_of_view same]
  split
  · exact inStep_of_view rfl rfl same
  · next pid _ => exact inStep_of_call rfl rfl rfl fun _ => same

/-- Reaping a worker's process at the end, however many remain. -/
theorem reapProcess_snd (s : Supervisor (Recorder σ)) (id : WorkerId) (n : Nat) :
    (reapProcess (n, s) id).2 =
      match (s.worker? id).bind (·.pid) with
      | none => s
      | some pid =>
          if s.reapedDead pid then (s.afterReap pid).forgetPid id else s.afterReap pid := by
  unfold reapProcess
  cases has : (s.worker? id).bind (·.pid) with
  | none => simp only [has]
  | some pid =>
      simp only [has]
      show (if s.reapedDead pid = true then _ else _ : Nat × Supervisor (Recorder σ)).2 =
        if s.reapedDead pid = true then _ else _
      split <;> rfl

/-- Reaping a worker's process at the end goes in step. -/
theorem inStep_reapProcess (same : s.view id = t.view id) (n : Nat) :
    InStep id s (reapProcess (n, s) id).2 t (reapProcess (n, t) id).2 := by
  rw [reapProcess_snd, reapProcess_snd, pid_of_view same]
  split
  · exact inStep_of_view rfl rfl same
  · next pid _ =>
      have asked (σ : Type) [ProcessManager σ] (s : Supervisor (Recorder σ)) :
          (if s.reapedDead pid then (s.afterReap pid).forgetPid id else
            s.afterReap pid).manager.calls =
          s.manager.calls ++ [.reap pid (ProcessManager.reap s.manager pid).1] := by
        split <;> rfl
      refine inStep_of_call (asked σ s) (asked τ t) rfl ?_
      intro answers
      have after : (s.afterReap pid).view id = (t.afterReap pid).view id := same
      rw [reapedDead_eq answers]
      split
      · rw [view_forgetPid, view_forgetPid, after]
      · exact after

omit [ProcessManager σ] [ProcessManager τ] in
/-- Letting go of everything at the end goes in step. -/
theorem inStep_letGo (same : s.view id = t.view id) :
    InStep id s ((s.releaseChannels id).resetCache id) t ((t.releaseChannels id).resetCache id) := by
  refine inStep_of_view (by simp) (by simp) ?_
  rw [view_resetCache, view_resetCache, view_releaseChannels, view_releaseChannels, same]

end Supervisor

end FrameMux
