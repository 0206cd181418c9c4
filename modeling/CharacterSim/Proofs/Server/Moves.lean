import CharacterSim.Proofs.Server.Announcement
import CharacterSim.Server.Exchange

/-! The moves of an exchange. Time passes by none of them but waiting, and a worker that is gone answers
nobody. One caller who is alone with the worker finds in the exchange the server that it stands for: to
place a command and to await its answer is a request, and to wait is to let the ticks happen that are
due. -/

namespace CharacterSim

/-- A worker that gets through what it does carries on. -/
theorem Server.perform_of_ok {α : Type} {server : Server} {worker after : Worker}
    {act : Worker → Step (Worker × α)} {answer : α} (hworker : server.worker = some worker)
    (hact : (act worker).result = .ok (after, answer)) :
    server.perform act =
      ((act worker).effects, { server with worker := some after }, .ok answer) := by
  rw [perform, hworker]
  simp only [hact]

/-- Whatever comes of it, no time passes while the worker acts. -/
theorem Server.now_perform {α : Type} (server : Server) (act : Worker → Step (Worker × α)) :
    (server.perform act).2.1.now = server.now := by
  unfold perform
  split
  · rfl
  · dsimp only
    split
    · rfl
    · rfl

namespace Exchange

variable {κ : Type} {exchange next : Exchange κ} {move : Move} {moves : List Move}
  {effects more : List Effect}

/-- A reply is delivered to its caller, unless that has gone away. -/
theorem answer_snd (exchange : Exchange κ) (letter : Letter) (reply : Reply) :
    (exchange.answer letter reply).2 = { exchange with
      answers := exchange.answers ++
        if letter.call ∈ exchange.forsaken then [] else [(letter.call, reply)] } := by
  unfold answer
  split
  · rw [List.append_nil]
  · rfl

theorem events_answer (exchange : Exchange κ) (letter : Letter) (reply : Reply) :
    Effect.events (exchange.answer letter reply).1 = [] := by
  unfold answer
  split
  · rfl
  · rfl

theorem worker?_of_running (h : exchange.stopped = false) :
    exchange.worker? = exchange.server.worker :=
  if_neg (by simp [h])

/-- A worker that acts is there, and has not come to its end. -/
theorem running_of_worker? {worker : Worker} (h : exchange.worker? = some worker) :
    exchange.stopped = false ∧ exchange.server.worker = some worker := by
  unfold worker? at h
  split at h
  · cases h
  · next hrunning => exact ⟨eq_false_of_ne_true hrunning, h⟩

/-! ### One move -/

/-- What a move leaves as it is by which the worker does nothing. -/
structure Idles (exchange next : Exchange κ) (effects : List Effect) : Prop where
  silent : Effect.events effects = []
  worker : next.server.worker = exchange.server.worker
  answers : next.answers = exchange.answers
  now : exchange.server.now ≤ next.server.now

variable [Mailbox κ Letter]

/-- What comes of each move, and what makes it possible. -/
inductive Happens (exchange : Exchange κ) : Move → List Effect → Exchange κ → Prop where
  | clone (hheld : exchange.handles ≠ 0) :
    Happens exchange .clone [] { exchange with handles := exchange.handles + 1 }
  | drop (hheld : exchange.handles ≠ 0) :
    Happens exchange .drop [] { exchange with handles := exchange.handles - 1 }
  | place {command : Command} {queue : κ} (hheld : exchange.handles ≠ 0)
    (hsend : Mailbox.send exchange.queue ⟨exchange.calls, command⟩ = .ok queue) :
    Happens exchange (.place command) [] { exchange with queue, calls := exchange.calls + 1 }
  | forsake {call : Nat} (hcall : call < exchange.calls) :
    Happens exchange (.forsake call) [] { exchange with forsaken := call :: exchange.forsaken }
  | wait (span : Duration) :
    Happens exchange (.wait span) []
      { exchange with server := { exchange.server with now := exchange.server.now + span } }
  | receive {worker : Worker} {letter : Letter} {queue : κ} {effects : List Effect}
    {next : Exchange κ} (hworker : exchange.worker? = some worker)
    (htake : Mailbox.take? exchange.queue = some (letter, queue))
    (hsettle : settle { exchange with queue } (exchange.server.request letter.command)
      (·.answer letter) = (effects, next)) :
    Happens exchange .receive effects next
  | tick {worker : Worker} {effects : List Effect} {next : Exchange κ}
    (hworker : exchange.worker? = some worker)
    (hdue : worker.schedule.isDue exchange.server.now = true)
    (hsettle : exchange.settle
      (exchange.server.perform fun worker => do return (← worker.tick exchange.server.now, ()))
      (fun exchange _ => ([], exchange)) = (effects, next)) :
    Happens exchange .tick effects next
  | stop {worker : Worker} (hworker : exchange.worker? = some worker)
    (htake : Mailbox.take? exchange.queue = none) (hgone : exchange.handles = 0) :
    Happens exchange .stop exchange.server.shutdown.1
      { exchange with stopped := true, queue := Mailbox.close exchange.queue }

theorem happens_of_move (hmove : exchange.move move = some (effects, next)) :
    exchange.Happens move effects next := by
  cases move with
  | clone =>
    obtain ⟨hheld, heq⟩ := Option.ite_none_left_eq_some.1 hmove
    cases heq
    exact .clone hheld
  | drop =>
    obtain ⟨hheld, heq⟩ := Option.ite_none_left_eq_some.1 hmove
    cases heq
    exact .drop hheld
  | place command =>
    obtain ⟨hheld, hplaced⟩ := Option.ite_none_left_eq_some.1 hmove
    split at hplaced
    · next queue hsend =>
      cases hplaced
      exact .place hheld hsend
    · cases hplaced
  | forsake call =>
    obtain ⟨hcall, heq⟩ := Option.ite_none_right_eq_some.1 hmove
    cases heq
    exact .forsake hcall
  | wait span =>
    cases hmove
    exact .wait span
  | receive =>
    rw [Exchange.move] at hmove
    split at hmove
    · next worker letter queue hworker htake => exact .receive hworker htake (Option.some.inj hmove)
    · cases hmove
  | tick =>
    rw [Exchange.move] at hmove
    split at hmove
    · next worker hworker =>
      obtain ⟨hdue, hsettle⟩ := Option.ite_none_right_eq_some.1 hmove
      exact .tick hworker hdue (Option.some.inj hsettle)
    · cases hmove
  | stop =>
    rw [Exchange.move] at hmove
    split at hmove
    · next worker hworker htake =>
      obtain ⟨hgone, heq⟩ := Option.ite_none_right_eq_some.1 hmove
      cases heq
      exact .stop hworker htake hgone
    · cases hmove

theorem idles_of_move (hmove : exchange.move move = some (effects, next))
    (hreceive : move ≠ .receive) (htick : move ≠ .tick) : exchange.Idles next effects := by
  have hstill : exchange.server.now ≤ exchange.server.now := Nat.le_refl _
  cases happens_of_move hmove with
  | clone | drop | place | forsake => exact ⟨rfl, rfl, rfl, hstill⟩
  | wait span => exact ⟨rfl, rfl, rfl, Nat.le_add_right _ _⟩
  | receive => exact absurd rfl hreceive
  | tick => exact absurd rfl htick
  | stop =>
    refine ⟨?_, rfl, rfl, hstill⟩
    unfold Server.shutdown
    split
    · rfl
    · rfl

theorem now_of_settle {α : Type} {done : List Effect × Server × Except ServerError α}
    {conclude : Exchange κ → α → List Effect × Exchange κ} {now : Duration} (hdone : done.2.1.now = now)
    (hconclude : ∀ exchange value, (conclude exchange value).2.server = exchange.server)
    (h : exchange.settle done conclude = (effects, next)) : next.server.now = now := by
  obtain rfl : next = _ := congrArg Prod.snd h.symm
  obtain ⟨told, server, outcome⟩ := done
  cases outcome with
  | ok value => exact (congrArg Server.now (hconclude _ value)).trans hdone
  | error refusal => exact hdone

/-- A tick that is due and comes to its end. -/
theorem move_tick {worker after : Worker} (hworker : exchange.worker? = some worker)
    (hdue : worker.schedule.isDue exchange.server.now = true)
    (htick : (worker.tick exchange.server.now).result = .ok after) :
    exchange.move .tick = some ((worker.tick exchange.server.now).effects,
      { exchange with server := { exchange.server with worker := some after } }) := by
  have hserving := (running_of_worker? hworker).2
  have hact : (do
      return (← worker.tick exchange.server.now, ()) : Step (Worker × Unit)).result =
        .ok (after, ()) := by
    rw [Step.bind_of_ok htick]
    rfl
  rw [Exchange.move, hworker]
  dsimp only
  rw [if_pos hdue, Server.perform_of_ok hserving hact, settle, Step.effects_bind_pure]
  dsimp only
  rw [List.append_nil]

/-- The clock does not go back. -/
theorem now_le_of_move (h : exchange.move move = some (more, next)) :
    exchange.server.now ≤ next.server.now := by
  have hidles := idles_of_move h
  have hstill : next.server.now = exchange.server.now → exchange.server.now ≤ next.server.now :=
    fun heq => Nat.le_of_eq (congrArg Duration.nanoseconds heq.symm)
  cases happens_of_move h with
  | receive hworker htake hsettle =>
    exact hstill (now_of_settle (Server.now_perform _ _)
      (fun exchange reply => by rw [answer_snd]) hsettle)
  | tick hworker hdue hsettle =>
    exact hstill (now_of_settle (Server.now_perform _ _) (fun _ _ => rfl) hsettle)
  | _ => exact (hidles (by simp) (by simp)).now

/-! ### Runs -/

theorem run_cons (h : exchange.run (move :: moves) = some (effects, next)) :
    ∃ first middle later, exchange.move move = some (first, middle) ∧
      middle.run moves = some (later, next) ∧ effects = first ++ later := by
  obtain ⟨⟨first, middle⟩, hmove, hrest⟩ := Option.bind_eq_some_iff.1 h
  obtain ⟨⟨later, last⟩, hlater, heq⟩ := Option.bind_eq_some_iff.1 hrest
  cases heq
  exact ⟨first, middle, later, hmove, hlater, rfl⟩

theorem run_cons_of_move (h : exchange.move move = some (effects, next)) (rest : List Move) :
    exchange.run (move :: rest) =
      (next.run rest).map fun later => (effects ++ later.1, later.2) := by
  rw [run, h]
  exact Option.map_eq_bind.symm

theorem now_le_of_run (h : exchange.run moves = some (effects, next)) :
    exchange.server.now ≤ next.server.now := by
  induction moves generalizing exchange effects with
  | nil =>
    cases h
    exact Nat.le_refl _
  | cons move rest ih =>
    obtain ⟨first, middle, later, hmove, hrest, -⟩ := run_cons h
    exact Nat.le_trans (now_le_of_move hmove) (ih hrest)

/-! ### A worker that is lost -/

theorem move_of_lost (hlost : exchange.server.worker = none)
    (hmove : exchange.move move = some (more, next)) :
    next.server.worker = none ∧ next.answers = exchange.answers := by
  have hidles := idles_of_move hmove
  cases happens_of_move hmove with
  | receive hworker | tick hworker => cases hlost.symm.trans (running_of_worker? hworker).2
  | _ =>
    have hnothing := hidles (by simp) (by simp)
    exact ⟨hnothing.worker.trans hlost, hnothing.answers⟩

/-- A worker that is lost answers nobody any more. -/
theorem run_of_lost {last : Exchange κ} (hlost : exchange.server.worker = none)
    (hrun : exchange.run moves = some (effects, last)) : last.answers = exchange.answers := by
  induction moves generalizing exchange effects with
  | nil =>
    cases hrun
    rfl
  | cons move rest ih =>
    obtain ⟨first, middle, later, hmove, hrest, -⟩ := run_cons hrun
    obtain ⟨hmiddle, hanswers⟩ := move_of_lost hlost hmove
    exact (ih hmiddle hrest).trans hanswers

/-! ### One caller alone -/

/-- A caller that finds nothing waiting and stays for its answer makes a request of the server, and
leaves nothing waiting. -/
theorem run_of_request {command : Command} {server : Server} {reply : Reply} {queue : κ}
    (hheld : exchange.handles ≠ 0) (hserving : exchange.worker? ≠ none)
    (hwaiting : exchange.waiting = [])
    (hroom : Mailbox.send exchange.queue ⟨exchange.calls, command⟩ = .ok queue)
    (hstays : exchange.calls ∉ exchange.forsaken)
    (hrequest : exchange.server.request command = (effects, server, .ok reply)) :
    ∃ rest, Mailbox.waiting rest = [] ∧
      exchange.run [.place command, .receive] = some (effects, { exchange with
        server
        queue := rest
        calls := exchange.calls + 1
        answers := exchange.answers ++ [(exchange.calls, reply)] }) := by
  obtain ⟨worker, hworker⟩ := Option.ne_none_iff_exists'.1 hserving
  have hplaced : Mailbox.waiting queue = [⟨exchange.calls, command⟩] :=
    (Mailbox.waiting_send hroom).trans (congrArg (· ++ _) hwaiting)
  obtain ⟨rest, htake, hrest⟩ := Mailbox.take?_of_waiting hplaced
  have hplace : exchange.move (.place command) =
      some ([], { exchange with queue, calls := exchange.calls + 1 }) := by
    rw [Exchange.move, if_neg hheld, hroom]
  have hreceive : Exchange.move { exchange with queue, calls := exchange.calls + 1 } .receive =
      some (effects, { exchange with
        server
        queue := rest
        calls := exchange.calls + 1
        answers := exchange.answers ++ [(exchange.calls, reply)] }) := by
    have hreached : Exchange.worker? { exchange with queue, calls := exchange.calls + 1 } =
        some worker := hworker
    rw [Exchange.move, hreached]
    simp only [htake, settle, hrequest, answer, if_neg hstays, List.append_nil]
  refine ⟨rest, hrest, ?_⟩
  rw [run_cons_of_move hplace, run_cons_of_move hreceive, run, Option.map_some, Option.map_some,
    List.append_nil, List.nil_append]

/-- The ticks that are due are moves, one after the other. -/
theorem exists_run_of_runDue {worker after : Worker} {limit : Nat}
    (hworker : exchange.worker? = some worker)
    (hrun : (worker.runDue exchange.server.now limit).result = .ok after) :
    ∃ count, exchange.run (List.replicate count .tick) =
      some ((worker.runDue exchange.server.now limit).effects,
        { exchange with server := { exchange.server with worker := some after } }) := by
  have hrunning := (running_of_worker? hworker).1
  induction limit generalizing exchange worker with
  | zero =>
    cases hrun
    refine ⟨0, ?_⟩
    rw [worker?_of_running hrunning] at hworker
    rw [← hworker]
    rfl
  | succ limit ih =>
    rw [Worker.runDue] at hrun ⊢
    split at hrun
    · next hdue =>
      rw [if_pos hdue]
      obtain ⟨ticked, htick, hrest, heffects⟩ := Step.bind_eq_ok hrun
      rw [heffects]
      let next : Exchange κ :=
        { exchange with server := { exchange.server with worker := some ticked } }
      have hmove : exchange.move .tick = some ((worker.tick exchange.server.now).effects, next) :=
        move_tick hworker hdue htick
      obtain ⟨count, hlater⟩ := @ih next ticked (worker?_of_running hrunning) hrest hrunning
      refine ⟨count + 1, ?_⟩
      rw [List.replicate_succ, run_cons_of_move hmove, hlater]
      rfl
    · next hdue =>
      rw [if_neg hdue]
      cases hrun
      refine ⟨0, ?_⟩
      rw [worker?_of_running hrunning] at hworker
      rw [← hworker]
      rfl

/-- A server that is made to wait makes the moves that its worker finds due then. -/
theorem exists_run_of_advance {span : Duration} {server : Server} (hserving : exchange.worker? ≠ none)
    (hadvance : exchange.server.advance span = (effects, server)) (hkept : server.worker ≠ none) :
    ∃ count, exchange.run (.wait span :: List.replicate count .tick) =
      some (effects, { exchange with server }) := by
  obtain ⟨worker, hworker⟩ := Option.ne_none_iff_exists'.1 hserving
  let later : Exchange κ :=
    { exchange with server := { exchange.server with now := exchange.server.now + span } }
  have hreached : later.worker? = some worker := hworker
  have hthere : later.server.worker = some worker := (running_of_worker? hreached).2
  have hcatches : later.server.catchUp = (effects, server) := hadvance
  rw [Server.catchUp] at hcatches
  cases hdue : (worker.runDue later.server.now
    (worker.schedule.ticksDue later.server.now)).result with
  | error fault =>
    rw [Server.perform, hthere] at hcatches
    simp only [Step.bind_of_error hdue, Prod.mk.injEq] at hcatches
    exact absurd (congrArg Server.worker hcatches.2.symm) hkept
  | ok after =>
    have hact : (do
        return (← worker.runDue later.server.now (worker.schedule.ticksDue later.server.now), ()) :
          Step (Worker × Unit)).result = .ok (after, ()) := by
      rw [Step.bind_of_ok hdue]
      rfl
    rw [Server.perform_of_ok hthere hact, Step.effects_bind_pure] at hcatches
    cases hcatches
    obtain ⟨count, hrun⟩ := exists_run_of_runDue hreached hdue
    refine ⟨count, ?_⟩
    have hmove : exchange.move (.wait span) = some ([], later) := rfl
    rw [run_cons_of_move hmove, hrun]
    rfl

end Exchange

end CharacterSim
