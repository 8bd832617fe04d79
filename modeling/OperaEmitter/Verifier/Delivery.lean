import OperaEmitter.Verifier.Listener

/-!
# What every interleaving of the listener keeps

`ListenerInv acts s` relates the state `s` reached by the moves `acts` to the
events those moves sent and received.  Each move keeps it, so it holds after
every interleaving of the goroutines from `newEventListener`: the channel is
first in, first out and never over capacity, no vote is lost or queued twice,
and the producer never sends on the closed channel, because `Close` closes
the channel only after `Unsubscribe` has stopped the producer.
-/

namespace OperaEmitter.Verifier

open Listener

@[simp] theorem sent_snoc (acts : List Act) (a : Act) :
    sent (acts ++ [a]) = sent acts ++ a.sent.toList := by
  cases a <;> simp [sent, Act.sent]

@[simp] theorem received_snoc (acts : List Act) (a : Act) :
    received (acts ++ [a]) = received acts ++ a.received.toList := by
  cases a <;> simp [received, Act.received]

theorem flatMap_set {β : Type} {l : List Worker} {i : Nat} {v : Worker} (h : l[i]? = some v)
    (w : Worker) (f : Worker → List β) :
    ∃ pre post, l.flatMap f = pre ++ f v ++ post ∧ (l.set i w).flatMap f = pre ++ f w ++ post := by
  obtain ⟨hi, rfl⟩ := List.getElem?_eq_some_iff.mp h
  have hl : l = l.take i ++ l[i] :: l.drop (i + 1) := by
    rw [← List.drop_eq_getElem_cons hi, List.take_append_drop]
  refine ⟨(l.take i).flatMap f, (l.drop (i + 1)).flatMap f, ?_, ?_⟩
  · conv_lhs => rw [hl]
    simp only [List.flatMap_append, List.flatMap_cons, List.append_assoc]
  · rw [List.set_eq_take_append_cons_drop, if_pos hi]
    simp only [List.flatMap_append, List.flatMap_cons, List.append_assoc]

/-- What holds after the moves `acts` have led to `s`. -/
structure ListenerInv (acts : List Act) (s : Listener) : Prop where
  fresh : s.enabled = false → s.chan = .nil ∧ s.buffer = [] ∧ s.workers = [] ∧ s.sub = .nil
  fifo : (received acts).map Prod.fst ++ s.buffer = sent acts
  capacity : s.buffer.length ≤ backlog
  votes_perm : (s.queue ++ s.workers.flatMap Worker.pending).Perm
    ((received acts).flatMap fun r => votes r.1 r.2)
  active_open : s.sub = .active → s.chan = .opened
  nil_sub : s.sub = .nil → s.chan ≠ .closed ∧ s.closing = false
  closing_stopped : s.closing = true → s.sub ≠ .active
  exited_drained : Worker.exited ∈ s.workers → s.chan = .closed ∧ s.buffer = []
  no_send_panic : s.panicked ≠ some .sendOnClosedChannel
  workers_started : s.chan ≠ .nil → s.workers.length = numOfWorkers
  adding_ne : ∀ evt, Worker.adding evt [] ∉ s.workers

theorem listenerInv_new : ListenerInv [] newEventListener where
  fresh _ := ⟨rfl, rfl, rfl, rfl⟩
  fifo := rfl
  capacity := Nat.zero_le _
  votes_perm := .refl _
  active_open := nofun
  nil_sub _ := ⟨nofun, rfl⟩
  closing_stopped := nofun
  exited_drained := nofun
  no_send_panic := nofun
  workers_started := fun h => absurd rfl h
  adding_ne _ := nofun

section Moves

variable {acts : List Act} {s s' : Listener}

theorem ListenerInv.of_trace (hi : ListenerInv acts s) {acts' : List Act}
    (hs : sent acts' = sent acts) (hr : received acts' = received acts) :
    ListenerInv acts' s where
  fresh := hi.fresh
  fifo := by rw [hs, hr]; exact hi.fifo
  capacity := hi.capacity
  votes_perm := by rw [hr]; exact hi.votes_perm
  active_open := hi.active_open
  nil_sub := hi.nil_sub
  closing_stopped := hi.closing_stopped
  exited_drained := hi.exited_drained
  no_send_panic := hi.no_send_panic
  workers_started := hi.workers_started
  adding_ne := hi.adding_ne

theorem ListenerInv.panic (hi : ListenerInv acts s) (a : Act) (ha : a.sent = none)
    (hr : a.received = none) {p : Panic} (hp : p ≠ .sendOnClosedChannel) :
    ListenerInv (acts ++ [a]) { s with panicked := some p } where
  fresh := hi.fresh
  fifo := by simpa [ha, hr] using hi.fifo
  capacity := hi.capacity
  votes_perm := by simpa [hr] using hi.votes_perm
  active_open := hi.active_open
  nil_sub := hi.nil_sub
  closing_stopped := hi.closing_stopped
  exited_drained := hi.exited_drained
  no_send_panic := by simpa using hp
  workers_started := hi.workers_started
  adding_ne := hi.adding_ne

theorem ListenerInv.start (hi : ListenerInv acts s) {initOk : Bool}
    (h : s.start initOk = some s') : ListenerInv (acts ++ [.start initOk]) s' := by
  unfold Listener.start at h
  split_ifs at h with hen hok <;> cases h
  · obtain ⟨-, hbuf, hw, hsub⟩ := hi.fresh (by simpa using hen)
    exact {
      fresh := nofun
      fifo := by simpa [Act.sent, Act.received, hbuf] using hi.fifo
      capacity := Nat.zero_le _
      votes_perm := by simpa [Act.received, hw, numOfWorkers] using hi.votes_perm
      active_open := by simp [hsub]
      nil_sub := fun _ => ⟨nofun, (hi.nil_sub hsub).2⟩
      closing_stopped := by simp [(hi.nil_sub hsub).2]
      exited_drained := by simp [numOfWorkers]
      no_send_panic := hi.no_send_panic
      workers_started := fun _ => List.length_replicate _ _
      adding_ne := fun _ hm => by simp [numOfWorkers] at hm }
  · exact {
      fresh := nofun
      fifo := by simpa [Act.sent, Act.received] using hi.fifo
      capacity := hi.capacity
      votes_perm := by simpa [Act.received] using hi.votes_perm
      active_open := hi.active_open
      nil_sub := hi.nil_sub
      closing_stopped := hi.closing_stopped
      exited_drained := hi.exited_drained
      no_send_panic := nofun
      workers_started := hi.workers_started
      adding_ne := hi.adding_ne }

theorem ListenerInv.subscribe (hi : ListenerInv acts s) {ok : Bool}
    (h : s.subscribe ok = some s') : ListenerInv (acts ++ [.subscribe ok]) s' := by
  unfold Listener.subscribe at h
  split_ifs at h with hg hok <;> cases h
  · obtain ⟨hchan, hsub⟩ := hg
    have hclosing := (hi.nil_sub hsub).2
    exact {
      fresh := fun hen => absurd (hi.fresh hen).1 hchan
      fifo := by simpa [Act.sent, Act.received] using hi.fifo
      capacity := hi.capacity
      votes_perm := by simpa [Act.received] using hi.votes_perm
      active_open := fun _ => by
        cases hc : s.chan
        · exact absurd hc hchan
        · rfl
        · exact absurd hc (hi.nil_sub hsub).1
      nil_sub := nofun
      closing_stopped := by simp [hclosing]
      exited_drained := hi.exited_drained
      no_send_panic := hi.no_send_panic
      workers_started := hi.workers_started
      adding_ne := hi.adding_ne }
  · exact hi.panic (.subscribe ok) rfl rfl nofun

theorem ListenerInv.deliver (hi : ListenerInv acts s) {evt : NewHash}
    (h : s.deliver evt = some s') : ListenerInv (acts ++ [.deliver evt]) s' := by
  unfold Listener.deliver at h
  split_ifs at h with hsub hlen <;> have hopen := hi.active_open hsub <;> rw [hopen] at h <;>
    cases h
  exact {
    fresh := fun hen => absurd (hi.fresh hen).2.2.2 (by simp [hsub])
    fifo := by simpa [Act.sent, Act.received] using congrArg (· ++ [evt]) hi.fifo
    capacity := by simp only [List.length_append, List.length_singleton]; omega
    votes_perm := by simpa [Act.received] using hi.votes_perm
    active_open := fun _ => rfl
    nil_sub := fun hn => by simp_all
    closing_stopped := hi.closing_stopped
    exited_drained := fun hm => absurd (hi.exited_drained hm).1 (by simp [hopen])
    no_send_panic := hi.no_send_panic
    workers_started := fun _ => hi.workers_started (by simp [hopen])
    adding_ne := hi.adding_ne }

theorem ListenerInv.subError (hi : ListenerInv acts s) (h : s.subError = some s') :
    ListenerInv (acts ++ [.subError]) s' := by
  unfold Listener.subError at h
  split_ifs at h with hsub
  cases h
  exact {
    fresh := fun hen => absurd (hi.fresh hen).2.2.2 (by simp [hsub])
    fifo := by simpa [Act.sent, Act.received] using hi.fifo
    capacity := hi.capacity
    votes_perm := by simpa [Act.received] using hi.votes_perm
    active_open := nofun
    nil_sub := nofun
    closing_stopped := fun _ => nofun
    exited_drained := hi.exited_drained
    no_send_panic := hi.no_send_panic
    workers_started := hi.workers_started
    adding_ne := hi.adding_ne }

theorem recv_eq {i : Nat} {evt : NewHash} {tokens : List Token}
    (h : s.recv i evt tokens = some s') :
    ∃ rest, s.workers[i]? = some .receiving ∧ s.buffer = evt :: rest ∧
      s' = { s with buffer := rest, workers := s.workers.set i (.after evt tokens) } := by
  unfold Listener.recv at h
  split at h
  · rename_i head rest hw hb
    split_ifs at h with he
    cases h
    subst he
    exact ⟨rest, hw, hb, rfl⟩
  · cases h

theorem ListenerInv.recv (hi : ListenerInv acts s) {i : Nat} {evt : NewHash}
    {tokens : List Token} (h : s.recv i evt tokens = some s') :
    ListenerInv (acts ++ [.recv i evt tokens]) s' := by
  obtain ⟨rest, hw, hb, rfl⟩ := recv_eq h
  obtain ⟨pre, post, h1, h2⟩ := flatMap_set hw (.after evt tokens) Worker.pending
  have hp := hi.votes_perm
  rw [h1] at hp
  exact {
    fresh := fun hen => absurd (hi.fresh hen).2.1 (by simp [hb])
    fifo := by simpa [Act.sent, Act.received, hb] using hi.fifo
    capacity := Nat.le_of_succ_le (by simpa [hb] using hi.capacity)
    votes_perm := by
      rw [h2, Worker.pending_after]
      rw [Worker.pending_receiving, List.append_nil] at hp
      have hp' := hp.append_right (votes evt tokens)
      simp only [List.append_assoc] at hp' ⊢
      simpa [Act.received] using
        ((List.perm_append_comm.append_left pre).append_left s.queue).trans hp'
    active_open := hi.active_open
    nil_sub := hi.nil_sub
    closing_stopped := hi.closing_stopped
    exited_drained := fun hm => by
      rcases List.mem_or_eq_of_mem_set hm with hm | hm
      · exact absurd (hi.exited_drained hm).2 (by simp [hb])
      · exact absurd hm.symm (Worker.after_ne_exited _ _)
    no_send_panic := hi.no_send_panic
    workers_started := fun hc => by simpa using hi.workers_started hc
    adding_ne := fun e hm => (List.mem_or_eq_of_mem_set hm).elim (hi.adding_ne e)
      fun h => Worker.after_ne_adding_nil _ _ _ h.symm }

theorem add_eq {i : Nat} (h : s.add i = some s') :
    ∃ evt token tokens, s.workers[i]? = some (.adding evt (token :: tokens)) ∧
      s' = { s with queue := s.queue ++ [(evt.hashId, token.currencyCode)],
                    workers := s.workers.set i (.after evt tokens) } := by
  unfold Listener.add at h
  split at h
  · rename_i evt token tokens hw
    cases h
    exact ⟨evt, token, tokens, hw, rfl⟩
  · cases h

theorem ListenerInv.add (hi : ListenerInv acts s) {i : Nat} (h : s.add i = some s') :
    ListenerInv (acts ++ [.add i]) s' := by
  obtain ⟨evt, token, tokens, hw, rfl⟩ := add_eq h
  obtain ⟨pre, post, h1, h2⟩ := flatMap_set hw (.after evt tokens) Worker.pending
  have hp := hi.votes_perm
  rw [h1] at hp
  exact {
    fresh := fun hen => by simp [(hi.fresh hen).2.2.1] at hw
    fifo := by simpa [Act.sent, Act.received] using hi.fifo
    capacity := hi.capacity
    votes_perm := by
      rw [h2, Worker.pending_after]
      rw [Worker.pending_adding] at hp
      have hmid : (pre ++ votes evt (token :: tokens) ++ post).Perm
          ((evt.hashId, token.currencyCode) :: (pre ++ votes evt tokens ++ post)) := by
        simp [votes]
      simpa [Act.received, List.append_assoc] using (hmid.append_left s.queue).symm.trans hp
    active_open := hi.active_open
    nil_sub := hi.nil_sub
    closing_stopped := hi.closing_stopped
    exited_drained := fun hm => by
      rcases List.mem_or_eq_of_mem_set hm with hm | hm
      · exact hi.exited_drained hm
      · exact absurd hm.symm (Worker.after_ne_exited _ _)
    no_send_panic := hi.no_send_panic
    workers_started := fun hc => by simpa using hi.workers_started hc
    adding_ne := fun e hm => (List.mem_or_eq_of_mem_set hm).elim (hi.adding_ne e)
      fun h => Worker.after_ne_adding_nil _ _ _ h.symm }

theorem exit_eq {i : Nat} (h : s.exit i = some s') :
    s.workers[i]? = some .receiving ∧ s.chan = .closed ∧ s.buffer = [] ∧
      s' = { s with workers := s.workers.set i .exited } := by
  unfold Listener.exit at h
  split at h
  · rename_i hw
    split_ifs at h with hg
    cases h
    exact ⟨hw, hg.1, hg.2, rfl⟩
  · cases h

theorem ListenerInv.exit (hi : ListenerInv acts s) {i : Nat} (h : s.exit i = some s') :
    ListenerInv (acts ++ [.exit i]) s' := by
  obtain ⟨hw, hchan, hbuf, rfl⟩ := exit_eq h
  obtain ⟨pre, post, h1, h2⟩ := flatMap_set hw .exited Worker.pending
  exact {
    fresh := fun hen => by simp [(hi.fresh hen).2.2.1] at hw
    fifo := by simpa [Act.sent, Act.received] using hi.fifo
    capacity := hi.capacity
    votes_perm := by
      rw [h2]
      simpa [Act.received, h1] using hi.votes_perm
    active_open := hi.active_open
    nil_sub := hi.nil_sub
    closing_stopped := hi.closing_stopped
    exited_drained := fun _ => ⟨hchan, hbuf⟩
    no_send_panic := hi.no_send_panic
    workers_started := fun hc => by simpa using hi.workers_started hc
    adding_ne := fun e hm => (List.mem_or_eq_of_mem_set hm).elim (hi.adding_ne e) nofun }

theorem close_cases (h : s.close = some s') :
    (s.closing = true ∧ s.chan = .opened ∧ s' = { s with chan := .closed, closing := false }) ∨
    (s.closing = false ∧ s.enabled = true ∧ s.sub ≠ .nil ∧
      s' = { s with sub := if s.sub = .active then .unsubscribed else s.sub, closing := true }) ∨
    (s.closing = false ∧ s.enabled = false ∧ s' = s) ∨
    (∃ p, p ≠ .sendOnClosedChannel ∧ s' = { s with panicked := some p }) := by
  unfold Listener.close at h
  split_ifs at h with hc hen
  · split at h <;> cases h
    · exact .inl ⟨hc, ‹_›, rfl⟩
    · exact .inr (.inr (.inr ⟨.closeOfClosedChannel, nofun, rfl⟩))
    · exact .inr (.inr (.inr ⟨.closeOfNilChannel, nofun, rfl⟩))
  · have hc' : s.closing = false := by simpa using hc
    split at h <;> cases h <;> rename_i hsub
    · exact .inr (.inr (.inr ⟨.nilSubscription, nofun, rfl⟩))
    · exact .inr (.inl ⟨hc', hen, by simp [hsub], by simp [hsub]⟩)
    · exact .inr (.inl ⟨hc', hen, by simp_all, by simp_all⟩)
  · cases h
    exact .inr (.inr (.inl ⟨by simpa using hc, by simpa using hen, rfl⟩))

theorem ListenerInv.close (hi : ListenerInv acts s) (h : s.close = some s') :
    ListenerInv (acts ++ [.close]) s' := by
  have hs : sent (acts ++ [.close]) = sent acts := by simp [Act.sent]
  have hr : received (acts ++ [.close]) = received acts := by simp [Act.received]
  rcases close_cases h with ⟨hc, hopen, rfl⟩ | ⟨hc, hen, hsub, rfl⟩ | ⟨-, -, rfl⟩ | ⟨p, hp, rfl⟩
  · have hsub : s.sub ≠ .nil := fun hn => by simp [(hi.nil_sub hn).2] at hc
    exact {
      fresh := fun hen => absurd (hi.fresh hen).1 (by simp [hopen])
      fifo := by rw [hs, hr]; exact hi.fifo
      capacity := hi.capacity
      votes_perm := by rw [hr]; exact hi.votes_perm
      active_open := fun ha => absurd ha (hi.closing_stopped hc)
      nil_sub := fun hn => absurd hn hsub
      closing_stopped := nofun
      exited_drained := fun hm => absurd (hi.exited_drained hm).1 (by simp [hopen])
      no_send_panic := hi.no_send_panic
      workers_started := fun _ => hi.workers_started (by simp [hopen])
      adding_ne := hi.adding_ne }
  · have hne : (if s.sub = .active then SubState.unsubscribed else s.sub) ≠ .active := by
      split <;> simp_all
    exact {
      fresh := fun hf => by simp [hen] at hf
      fifo := by rw [hs, hr]; exact hi.fifo
      capacity := hi.capacity
      votes_perm := by rw [hr]; exact hi.votes_perm
      active_open := fun ha => absurd ha hne
      nil_sub := fun hn => by split at hn <;> simp_all
      closing_stopped := fun _ => hne
      exited_drained := hi.exited_drained
      no_send_panic := hi.no_send_panic
      workers_started := hi.workers_started
      adding_ne := hi.adding_ne }
  · exact hi.of_trace hs hr
  · exact hi.panic .close rfl rfl hp

theorem ListenerInv.step (hi : ListenerInv acts s) {a : Act} (h : s.step a = some s') :
    ListenerInv (acts ++ [a]) s' := by
  unfold Listener.step at h
  split_ifs at h
  cases a with
  | start initOk => exact hi.start h
  | subscribe ok => exact hi.subscribe h
  | deliver evt => exact hi.deliver h
  | subError => exact hi.subError h
  | recv i evt tokens => exact hi.recv h
  | add i => exact hi.add h
  | exit i => exact hi.exit h
  | close => exact hi.close h

end Moves

theorem ListenerInv.run {acts : List Act} {s : Listener} (hi : ListenerInv acts s) :
    ∀ {more : List Act} {s' : Listener}, s.run more = some s' → ListenerInv (acts ++ more) s'
  | [], _, h => by
      cases h
      simpa using hi
  | a :: more, _, h => by
      obtain ⟨s₁, h₁, h₂⟩ := Option.bind_eq_some.mp h
      simpa using (hi.step h₁).run h₂

theorem listenerInv_of_run {acts : List Act} {s : Listener}
    (h : newEventListener.run acts = some s) : ListenerInv acts s := by
  simpa using listenerInv_new.run h


/-! ## Every interleaving -/

theorem eventChannel_fifo {acts : List Act} {s : Listener}
    (h : newEventListener.run acts = some s) :
    s.buffer.length ≤ backlog ∧ (received acts).map Prod.fst ++ s.buffer = sent acts ∧
      s.panicked ≠ some .sendOnClosedChannel :=
  have hi := listenerInv_of_run h
  ⟨hi.capacity, hi.fifo, hi.no_send_panic⟩

/-- `Start`, the subscription, one event, `Close` with the worker draining the
event between its two statements, then the end of the worker's loop. -/
def shutdownTrace : List Act :=
  [.start true, .subscribe true, .deliver ⟨7⟩, .close, .recv 0 ⟨7⟩ [⟨"XEN"⟩], .close, .add 0,
    .exit 0]

def shutdownState : Listener :=
  ⟨true, .closed, [], .unsubscribed, [.exited], false, [(7, "XEN")], none⟩

theorem eventChannel_fifo_on_shutdown :
    newEventListener.run shutdownTrace = some shutdownState ∧
      shutdownState.buffer.length ≤ backlog ∧
      (received shutdownTrace).map Prod.fst ++ shutdownState.buffer = sent shutdownTrace ∧
      shutdownState.panicked ≠ some .sendOnClosedChannel :=
  ⟨rfl, eventChannel_fifo (show newEventListener.run shutdownTrace = some shutdownState from rfl)⟩

theorem ListenerInv.quiescent {acts : List Act} {s : Listener} (hi : ListenerInv acts s)
    (hne : s.workers ≠ []) (hall : ∀ w ∈ s.workers, w = .exited) :
    s.buffer = [] ∧ (received acts).map Prod.fst = sent acts ∧
      s.queue.Perm ((received acts).flatMap fun r => votes r.1 r.2) := by
  obtain ⟨w, hw⟩ := List.exists_mem_of_ne_nil _ hne
  have hbuf := (hi.exited_drained (hall w hw ▸ hw)).2
  have hpend : s.workers.flatMap Worker.pending = [] :=
    List.flatMap_eq_nil_iff.mpr fun w hw => by rw [hall w hw, Worker.pending_exited]
  refine ⟨hbuf, by simpa [hbuf] using hi.fifo, ?_⟩
  simpa [hpend] using hi.votes_perm

/-- No vote is lost or queued twice, whatever the order of the goroutines' moves. -/
theorem votes_exactly_once {acts : List Act} {s : Listener}
    (h : newEventListener.run acts = some s) :
    (s.queue ++ s.workers.flatMap Worker.pending).Perm
      ((received acts).flatMap fun r => votes r.1 r.2) ∧
    (s.workers ≠ [] → (∀ w ∈ s.workers, w = .exited) →
      s.buffer = [] ∧ (received acts).map Prod.fst = sent acts ∧
        s.queue.Perm ((received acts).flatMap fun r => votes r.1 r.2)) :=
  have hi := listenerInv_of_run h
  ⟨hi.votes_perm, hi.quiescent⟩

theorem votes_exactly_once_on_shutdown :
    newEventListener.run shutdownTrace = some shutdownState ∧
    (shutdownState.queue ++ shutdownState.workers.flatMap Worker.pending).Perm
      ((received shutdownTrace).flatMap fun r => votes r.1 r.2) ∧
    (shutdownState.workers ≠ [] → (∀ w ∈ shutdownState.workers, w = .exited) →
      shutdownState.buffer = [] ∧ (received shutdownTrace).map Prod.fst = sent shutdownTrace ∧
        shutdownState.queue.Perm ((received shutdownTrace).flatMap fun r => votes r.1 r.2)) :=
  ⟨rfl, votes_exactly_once (show newEventListener.run shutdownTrace = some shutdownState from rfl)⟩

theorem step_of_failed {s s' : Listener} (hf : s.sub = .failed) {a : Act}
    (h : s.step a = some s') : s'.sub = .failed ∧ a.sent = none := by
  unfold Listener.step at h
  split_ifs at h
  cases a with
  | start initOk =>
      unfold Listener.start at h
      cases initOk <;> split_ifs at h <;> cases h <;> exact ⟨hf, rfl⟩
  | subscribe ok => simp [Listener.subscribe, hf] at h
  | deliver evt => simp [Listener.deliver, hf] at h
  | subError => simp [Listener.subError, hf] at h
  | recv i evt tokens =>
      obtain ⟨_, _, _, rfl⟩ := recv_eq h
      exact ⟨hf, rfl⟩
  | add i =>
      obtain ⟨_, _, _, _, rfl⟩ := add_eq h
      exact ⟨hf, rfl⟩
  | exit i =>
      obtain ⟨_, _, _, rfl⟩ := exit_eq h
      exact ⟨hf, rfl⟩
  | close =>
      rcases close_cases h with ⟨-, -, rfl⟩ | ⟨-, -, -, rfl⟩ | ⟨-, -, rfl⟩ | ⟨p, -, rfl⟩
      all_goals exact ⟨by simp [hf], rfl⟩

/-- The listener never subscribes again: once the subscription has failed,
whatever the goroutines do afterwards, no contract event is sent into the
channel, so the workers only drain what was buffered. -/
theorem no_delivery_after_subError {s s' : Listener} (hf : s.sub = .failed) :
    ∀ {more : List Act}, s.run more = some s' → s'.sub = .failed ∧ sent more = []
  | [], h => by
      cases h
      exact ⟨hf, rfl⟩
  | a :: more, h => by
      obtain ⟨s₁, h₁, h₂⟩ := Option.bind_eq_some.mp h
      obtain ⟨hf₁, ha⟩ := step_of_failed hf h₁
      obtain ⟨hf', hmore⟩ := no_delivery_after_subError hf₁ h₂
      refine ⟨hf', ?_⟩
      simpa [sent, List.filterMap_cons, ha] using hmore

def failedState : Listener :=
  ⟨true, .opened, [⟨7⟩], .failed, [.receiving], false, [], none⟩

def drainMoves : List Act := [.recv 0 ⟨7⟩ [], .close, .close, .exit 0]

def drainedState : Listener :=
  ⟨true, .closed, [], .failed, [.exited], false, [], none⟩

theorem no_delivery_after_subError_from_failed :
    failedState.sub = .failed ∧ failedState.run drainMoves = some drainedState ∧
      drainedState.sub = .failed ∧ sent drainMoves = [] :=
  ⟨rfl, rfl, no_delivery_after_subError (show failedState.sub = .failed from rfl)
    (show failedState.run drainMoves = some drainedState from rfl)⟩

end OperaEmitter.Verifier
