import OperaEmitter.Verifier.Delivery

/-!
# Shutting the listener down

The workers keep up with the producer, whatever the verifier answers: from
every reachable state their own moves empty the channel and queue the votes of
every event sent so far.  `Close` unsubscribes, then closes the channel; the
workers then drain what is buffered and leave their loops, so from every
reachable state with the channel closed their own moves lead to a state where
every loop has ended and every event ever sent has had its votes queued once.
Both are one induction on the work left (`workers_reach`).

A single `Close` completes cleanly, whatever the other goroutines do between
its two statements, but `Close` is not idempotent: one that begins after an
earlier `Close` closed the channel panics at `close`.
-/

namespace OperaEmitter.Verifier

open Listener

theorem Listener.run_append (s : Listener) (xs ys : List Act) :
    s.run (xs ++ ys) = (s.run xs).bind fun s' => s'.run ys := by
  induction xs generalizing s with
  | nil => rfl
  | cons a xs ih =>
      show (s.step a).bind (fun s' => s'.run (xs ++ ys)) =
        ((s.step a).bind fun s' => s'.run xs).bind fun s' => s'.run ys
      cases s.step a with
      | none => rfl
      | some s₁ => exact ih s₁

theorem Listener.run_trans {s s₁ s₂ : Listener} {acts more : List Act}
    (h : s.run acts = some s₁) (h₁ : s₁.run more = some s₂) : s.run (acts ++ more) = some s₂ := by
  simp [Listener.run_append, h, h₁]

theorem Listener.run_snoc {s s₁ s₂ : Listener} {acts : List Act} {a : Act}
    (h : s.run acts = some s₁) (h₁ : s₁.step a = some s₂) : s.run (acts ++ [a]) = some s₂ :=
  run_trans h (by simp [Listener.run, h₁])

/-- A move of a worker goroutine, receiving with the verifier's `answer`. -/
def Act.ByWorker (answer : NewHash → List Token) : Act → Prop
  | .recv _ evt tokens => tokens = answer evt
  | .add _ => True
  | .exit _ => True
  | _ => False

/-- What the workers have left to do under the verifier's `answer`: votes to
queue, buffered events to receive with their votes, and loops to leave. -/
def workLeft (answer : NewHash → List Token) (s : Listener) : Nat :=
  (s.workers.flatMap Worker.pending).length +
    (s.buffer.map fun evt => (answer evt).length + 1).sum +
    (s.workers.flatMap fun w => if w = .exited then [] else [w]).length

section Drain

variable (answer : NewHash → List Token) {acts : List Act} {s : Listener}

theorem worker_move (hi : ListenerInv acts s) (hp : s.panicked = none)
    {w : Worker} (hw : w ∈ s.workers) (hwe : w ≠ .exited)
    (hwait : w = .receiving → s.buffer = [] → s.chan = .closed) :
    ∃ a s', a.ByWorker answer ∧ s.step a = some s' ∧ s'.chan = s.chan ∧
      s'.panicked = none ∧ workLeft answer s' < workLeft answer s := by
  obtain ⟨i, hwi⟩ := List.mem_iff_getElem?.mp hw
  cases w with
  | exited => exact absurd rfl hwe
  | receiving =>
      cases hb : s.buffer with
      | nil =>
          refine ⟨.exit i, { s with workers := s.workers.set i .exited }, trivial, ?_, rfl, hp, ?_⟩
          · simp [Listener.step, hp, Listener.exit, hwi, hwait rfl hb, hb]
          · obtain ⟨pre, post, h1, h2⟩ := flatMap_set hwi .exited Worker.pending
            obtain ⟨pre', post', h1', h2'⟩ :=
              flatMap_set hwi .exited fun w => if w = .exited then [] else [w]
            simp only [workLeft, h1, h2, h1', h2', hb]
            simp
      | cons evt rest =>
          refine ⟨.recv i evt (answer evt),
            { s with buffer := rest, workers := s.workers.set i (.after evt (answer evt)) },
            rfl, ?_, rfl, hp, ?_⟩
          · simp [Listener.step, hp, Listener.recv, hwi, hb]
          · obtain ⟨pre, post, h1, h2⟩ := flatMap_set hwi (.after evt (answer evt)) Worker.pending
            obtain ⟨pre', post', h1', h2'⟩ := flatMap_set hwi (.after evt (answer evt))
              fun w => if w = .exited then [] else [w]
            simp only [workLeft, h1, h2, h1', h2', hb]
            simp [votes]
            omega
  | adding evt tokens =>
      cases tokens with
      | nil => exact absurd hw (hi.adding_ne evt)
      | cons token tokens =>
          refine ⟨.add i,
            { s with queue := s.queue ++ [(evt.hashId, token.currencyCode)],
                     workers := s.workers.set i (.after evt tokens) },
            trivial, ?_, rfl, hp, ?_⟩
          · simp [Listener.step, hp, Listener.add, hwi]
          · obtain ⟨pre, post, h1, h2⟩ := flatMap_set hwi (.after evt tokens) Worker.pending
            obtain ⟨pre', post', h1', h2'⟩ :=
              flatMap_set hwi (.after evt tokens) fun w => if w = .exited then [] else [w]
            simp only [workLeft, h1, h2, h1', h2']
            simp [votes]

/-- The workers' own moves, receiving with `answer`, lead from a reachable
state to one where `done` holds, provided that until then some worker can
move. -/
theorem workers_reach (done : Listener → Prop) (c : ChanState)
    (hmove : ∀ {acts : List Act} {s : Listener}, newEventListener.run acts = some s →
      s.panicked = none → s.chan = c → ¬ done s →
      ∃ w ∈ s.workers, w ≠ .exited ∧ (w = .receiving → s.buffer = [] → s.chan = .closed))
    (h : newEventListener.run acts = some s) (hc : s.chan = c) (hp : s.panicked = none) :
    ∃ more s', (∀ a ∈ more, a.ByWorker answer) ∧ s.run more = some s' ∧ s'.chan = c ∧
      done s' := by
  obtain ⟨n, hn⟩ : ∃ n, workLeft answer s = n := ⟨_, rfl⟩
  induction n using Nat.strong_induction_on generalizing acts s with
  | _ n ih =>
  by_cases hdone : done s
  · exact ⟨[], s, nofun, rfl, hc, hdone⟩
  obtain ⟨w, hw, hwe, hwait⟩ := hmove h hp hc hdone
  obtain ⟨a, s₁, ha, h₁, hc₁, hp₁, hlt⟩ :=
    worker_move answer (listenerInv_of_run h) hp hw hwe hwait
  obtain ⟨more, s', hmore, hrun, hc', hdone'⟩ :=
    ih _ (hn ▸ hlt) (run_snoc h h₁) (hc₁.trans hc) hp₁ rfl
  exact ⟨a :: more, s', List.forall_mem_cons.mpr ⟨ha, hmore⟩, by simp [Listener.run, h₁, hrun],
    hc', hdone'⟩

theorem workers_finish (h : newEventListener.run acts = some s) (hc : s.chan = .closed)
    (hp : s.panicked = none) :
    ∃ more s', (∀ a ∈ more, a.ByWorker answer) ∧ s.run more = some s' ∧
      s'.chan = .closed ∧ ∀ w ∈ s'.workers, w = .exited := by
  refine workers_reach answer _ .closed (fun _ _ hc hall => ?_) h hc hp
  push_neg at hall
  obtain ⟨w, hw, hwe⟩ := hall
  exact ⟨w, hw, hwe, fun _ _ => hc⟩

theorem sent_eq_of_byWorker {more : List Act} (h : ∀ a ∈ more, a.ByWorker answer) :
    sent (acts ++ more) = sent acts := by
  have hm : ∀ a ∈ more, a.sent = none := fun a ha => by
    have := h a ha
    cases a <;> first | rfl | exact this.elim
  simp [sent, List.filterMap_append, List.filterMap_eq_nil_iff.mpr hm]

end Drain

/-- After `Close` the workers can always finish, whatever the verifier answers. -/
theorem workers_drain_after_close (answer : NewHash → List Token) {acts : List Act}
    {s : Listener} (h : newEventListener.run acts = some s) (hc : s.chan = .closed)
    (hp : s.panicked = none) :
    ∃ more s', (∀ a ∈ more, a.ByWorker answer) ∧ s.run more = some s' ∧
      (∀ w ∈ s'.workers, w = .exited) ∧ s'.buffer = [] ∧
      (received (acts ++ more)).map Prod.fst = sent acts ∧
      s'.queue.Perm ((received (acts ++ more)).flatMap fun r => votes r.1 r.2) := by
  obtain ⟨more, s', hmore, hrun, hc', hall⟩ := workers_finish answer h hc hp
  have hi := listenerInv_of_run (run_trans h hrun)
  have hne : s'.workers ≠ [] := by
    have := hi.workers_started (by simp [hc'])
    intro hnil
    simp [hnil, numOfWorkers] at this
  obtain ⟨hbuf, hfifo, hq⟩ := hi.quiescent hne hall
  exact ⟨more, s', hmore, hrun, hall, hbuf, hfifo.trans (sent_eq_of_byWorker answer hmore), hq⟩

def closeTrace : List Act := [.start true, .subscribe true, .deliver ⟨7⟩, .close, .close]

def closedState : Listener :=
  ⟨true, .closed, [⟨7⟩], .unsubscribed, [.receiving], false, [], none⟩

theorem workers_drain_after_close_from_closed :
    newEventListener.run closeTrace = some closedState ∧ closedState.chan = .closed ∧
      closedState.panicked = none ∧
      ∃ more s', (∀ a ∈ more, a.ByWorker fun _ => [⟨"XEN"⟩]) ∧ closedState.run more = some s' ∧
        (∀ w ∈ s'.workers, w = .exited) ∧ s'.buffer = [] ∧
        (received (closeTrace ++ more)).map Prod.fst = sent closeTrace ∧
        s'.queue.Perm ((received (closeTrace ++ more)).flatMap fun r => votes r.1 r.2) :=
  ⟨rfl, rfl, rfl, workers_drain_after_close _
    (show newEventListener.run closeTrace = some closedState from rfl) rfl rfl⟩

/-- Nothing sent stays stuck in the channel, whatever the verifier answers. -/
theorem workers_catch_up (answer : NewHash → List Token) {acts : List Act} {s : Listener}
    (h : newEventListener.run acts = some s) (hc : s.chan ≠ .nil) (hp : s.panicked = none) :
    ∃ more s', (∀ a ∈ more, a.ByWorker answer) ∧ s.run more = some s' ∧ s'.buffer = [] ∧
      (received (acts ++ more)).map Prod.fst = sent acts ∧
      s'.queue.Perm ((received (acts ++ more)).flatMap fun r => votes r.1 r.2) := by
  have hmove : ∀ {acts : List Act} {t : Listener}, newEventListener.run acts = some t →
      t.panicked = none → t.chan = s.chan →
      ¬(t.buffer = [] ∧ t.workers.flatMap Worker.pending = []) →
      ∃ w ∈ t.workers, w ≠ .exited ∧ (w = .receiving → t.buffer = [] → t.chan = .closed) := by
    intro acts t ht _ htc hnd
    have hi := listenerInv_of_run ht
    by_cases hb : t.buffer = []
    · obtain ⟨w, hw, hwp⟩ : ∃ w ∈ t.workers, w.pending ≠ [] := by
        simpa [hb, List.flatMap_eq_nil_iff] using hnd
      exact ⟨w, hw, fun he => by simp [he] at hwp, fun hr => by simp [hr] at hwp⟩
    · have hlen := hi.workers_started (htc ▸ hc)
      obtain ⟨w, hw⟩ := List.exists_mem_of_ne_nil t.workers
        (List.ne_nil_of_length_pos (by simp [hlen, numOfWorkers]))
      exact ⟨w, hw, fun he => hb (hi.exited_drained (he ▸ hw)).2, fun _ hb' => absurd hb' hb⟩
  obtain ⟨more, s', hmore, hrun, -, hbuf, hpend⟩ := workers_reach answer _ _ hmove h rfl hp
  have hi := listenerInv_of_run (run_trans h hrun)
  refine ⟨more, s', hmore, hrun, hbuf, ?_, by simpa [hpend] using hi.votes_perm⟩
  simpa [hbuf, sent_eq_of_byWorker answer hmore] using hi.fifo

def deliverTrace : List Act := [.start true, .subscribe true, .deliver ⟨7⟩]

def deliveredState : Listener :=
  ⟨true, .opened, [⟨7⟩], .active, [.receiving], false, [], none⟩

theorem workers_catch_up_after_deliver :
    newEventListener.run deliverTrace = some deliveredState ∧ deliveredState.chan ≠ .nil ∧
      deliveredState.panicked = none ∧
      ∃ more s', (∀ a ∈ more, a.ByWorker fun _ => [⟨"XEN"⟩]) ∧
        deliveredState.run more = some s' ∧ s'.buffer = [] ∧
        (received (deliverTrace ++ more)).map Prod.fst = sent deliverTrace ∧
        s'.queue.Perm ((received (deliverTrace ++ more)).flatMap fun r => votes r.1 r.2) :=
  ⟨rfl, by decide, rfl, workers_catch_up _
    (show newEventListener.run deliverTrace = some deliveredState from rfl) (by decide) rfl⟩

theorem ListenerInv.enabled_of_chan {acts : List Act} {s : Listener} (hi : ListenerInv acts s)
    (hc : s.chan ≠ .nil) : s.enabled = true := by
  cases he : s.enabled
  · exact absurd (hi.fresh he).1 hc
  · rfl

theorem close_unsubscribes {acts : List Act} {s : Listener} (hi : ListenerInv acts s)
    (hc : s.chan ≠ .nil) (hsub : s.sub ≠ .nil) (hcl : s.closing = false)
    (hp : s.panicked = none) :
    s.step .close = some { s with sub := if s.sub = .active then .unsubscribed else s.sub,
                                  closing := true } := by
  simp only [Listener.step, hp, if_true, Listener.close, hcl, hi.enabled_of_chan hc]
  cases hs : s.sub <;> simp_all

theorem step_keeps_closing {acts : List Act} {s s' : Listener} (hi : ListenerInv acts s)
    (hc : s.chan ≠ .nil) (hcl : s.closing = true) (hp : s.panicked = none) {a : Act}
    (ha : a ≠ .close) (h : s.step a = some s') :
    s'.chan = s.chan ∧ s'.closing = true ∧ s'.panicked = none := by
  have hen := hi.enabled_of_chan hc
  have hsub : s.sub ≠ .nil := fun hn => by simp [(hi.nil_sub hn).2] at hcl
  have hact := hi.closing_stopped hcl
  simp only [Listener.step, hp, if_true] at h
  cases a with
  | start initOk => simp [Listener.start, hen] at h
  | subscribe ok => simp [Listener.subscribe, hsub] at h
  | deliver evt => simp [Listener.deliver, hact] at h
  | subError => simp [Listener.subError, hact] at h
  | recv i evt tokens =>
      obtain ⟨_, _, _, rfl⟩ := recv_eq h
      exact ⟨rfl, hcl, hp⟩
  | add i =>
      obtain ⟨_, _, _, _, rfl⟩ := add_eq h
      exact ⟨rfl, hcl, hp⟩
  | exit i =>
      obtain ⟨_, _, _, rfl⟩ := exit_eq h
      exact ⟨rfl, hcl, hp⟩
  | close => exact absurd rfl ha

theorem run_keeps_closing {more : List Act} :
    ∀ {acts : List Act} {s s' : Listener}, ListenerInv acts s → s.chan ≠ .nil →
      s.closing = true → s.panicked = none → (∀ a ∈ more, a ≠ .close) → s.run more = some s' →
      s'.chan = s.chan ∧ s'.closing = true ∧ s'.panicked = none := by
  induction more with
  | nil =>
      intro _ s _ _ _ hcl hp _ h
      cases h
      exact ⟨rfl, hcl, hp⟩
  | cons a more ih =>
      intro _ s s' hi hc hcl hp hne h
      obtain ⟨s₁, h₁, h₂⟩ := Option.bind_eq_some.mp h
      obtain ⟨hc₁, hcl₁, hp₁⟩ := step_keeps_closing hi hc hcl hp (hne a (by simp)) h₁
      obtain ⟨hc₂, hcl₂, hp₂⟩ :=
        ih (hi.step h₁) (hc₁ ▸ hc) hcl₁ hp₁ (fun b hb => hne b (by simp [hb])) h₂
      exact ⟨hc₂.trans hc₁, hcl₂, hp₂⟩

/-- `Unsubscribe` stops the producer before `close` runs, whatever the other
goroutines do between the two statements. -/
theorem close_once_completes {acts : List Act} {s : Listener}
    (h : newEventListener.run acts = some s) (hc : s.chan = .opened) (hsub : s.sub ≠ .nil)
    (hcl : s.closing = false) (hp : s.panicked = none) :
    ∃ s₁, s.step .close = some s₁ ∧
      ∀ {more : List Act} {s₂ : Listener}, (∀ a ∈ more, a ≠ .close) → s₁.run more = some s₂ →
        s₂.sub ≠ .active ∧ s₂.step .close = some { s₂ with chan := .closed, closing := false } := by
  have hi := listenerInv_of_run h
  have hc' : s.chan ≠ .nil := by simp [hc]
  have h₁ := close_unsubscribes hi hc' hsub hcl hp
  refine ⟨_, h₁, fun hne h₂ => ?_⟩
  obtain ⟨hc₂, hcl₂, hp₂⟩ := run_keeps_closing (hi.step h₁) hc' rfl hp hne h₂
  refine ⟨((hi.step h₁).run h₂).closing_stopped hcl₂, ?_⟩
  simp [Listener.step, hp₂, Listener.close, hcl₂, hc₂, hc]

def subscribedState : Listener := ⟨true, .opened, [], .active, [.receiving], false, [], none⟩

theorem close_once_completes_after_subscribe :
    newEventListener.run [.start true, .subscribe true] = some subscribedState ∧
      subscribedState.chan = .opened ∧ subscribedState.sub ≠ .nil ∧
      subscribedState.closing = false ∧ subscribedState.panicked = none ∧
      ∃ s₁, subscribedState.step .close = some s₁ ∧
        ∀ {more : List Act} {s₂ : Listener}, (∀ a ∈ more, a ≠ .close) → s₁.run more = some s₂ →
          s₂.sub ≠ .active ∧
            s₂.step .close = some { s₂ with chan := .closed, closing := false } :=
  ⟨rfl, rfl, by decide, rfl, rfl, close_once_completes
    (show newEventListener.run [.start true, .subscribe true] = some subscribedState from rfl)
    rfl (by decide) rfl rfl⟩

/-- `enabled` is never reset, so a second `Close` unsubscribes again and its
`close` panics on the closed channel. -/
theorem close_twice_panics {acts : List Act} {s : Listener}
    (h : newEventListener.run acts = some s) (hc : s.chan = .closed) (hp : s.panicked = none)
    (hcl : s.closing = false) :
    ∃ s₁, s.step .close = some s₁ ∧ s₁.closing = true ∧
      ∀ {more : List Act} {s₂ : Listener}, (∀ a ∈ more, a ≠ .close) → s₁.run more = some s₂ →
        s₂.step .close = some { s₂ with panicked := some .closeOfClosedChannel } := by
  have hi := listenerInv_of_run h
  have hc' : s.chan ≠ .nil := by simp [hc]
  have h₁ := close_unsubscribes hi hc' (fun hn => (hi.nil_sub hn).1 hc) hcl hp
  refine ⟨_, h₁, rfl, fun hne h₂ => ?_⟩
  obtain ⟨hc₂, hcl₂, hp₂⟩ := run_keeps_closing (hi.step h₁) hc' rfl hp hne h₂
  simp [Listener.step, hp₂, Listener.close, hcl₂, hc₂, hc]

theorem close_twice_panics_from_closed :
    newEventListener.run closeTrace = some closedState ∧ closedState.chan = .closed ∧
      closedState.panicked = none ∧ closedState.closing = false ∧
      ∃ s₁, closedState.step .close = some s₁ ∧ s₁.closing = true ∧
        ∀ {more : List Act} {s₂ : Listener}, (∀ a ∈ more, a ≠ .close) → s₁.run more = some s₂ →
          s₂.step .close = some { s₂ with panicked := some .closeOfClosedChannel } :=
  ⟨rfl, rfl, rfl, rfl, close_twice_panics
    (show newEventListener.run closeTrace = some closedState from rfl) rfl rfl rfl⟩

end OperaEmitter.Verifier
