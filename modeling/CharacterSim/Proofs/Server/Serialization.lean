import CharacterSim.Proofs.Server.Moves
import CharacterSim.Proofs.Server.Service

/-! However callers and ticks interleave, a worker serves the commands one at a time, in the order in
which they were placed, and comes to its end after the last of them. What it announces and replies is
what it would announce and reply if it were asked by one caller alone. -/

namespace CharacterSim

namespace Exchange

open Worker (letters)

variable {κ : Type} [Mailbox κ Letter]

/-- What the worker does by a move. -/
def turn? (exchange : Exchange κ) : Move → Option Worker.Turn
  | .receive => exchange.waiting.head?.map .letter
  | .tick => some (.tick exchange.server.now)
  | _ => none

/-- What the worker does in a run, turn by turn. -/
def turns (exchange : Exchange κ) : List Move → List Worker.Turn
  | [] => []
  | move :: rest =>
    match exchange.move move with
    | some (_, next) => (exchange.turn? move).toList ++ next.turns rest
    | none => []

/-- The command that is placed by a move. -/
def placed? : Move → Option Command
  | .place command => some command
  | _ => none

/-- The commands that are placed, in order. -/
def placements (moves : List Move) : List Command := moves.filterMap placed?

/-- Commands as letters of the calls from the first on. -/
def numbered (commands : List Command) : List Letter :=
  commands.zipIdx.map fun (command, call) => ⟨call, command⟩

variable {exchange next : Exchange κ} {move : Move} {moves : List Move} {effects more : List Effect}

theorem placements_concat (moves : List Move) (move : Move) :
    placements (moves ++ [move]) = placements moves ++ (placed? move).toList := by
  rw [placements, List.filterMap_append]
  cases hplaced : placed? move <;> simp [placements, hplaced]

theorem numbered_concat (commands : List Command) (command : Command) :
    numbered (commands ++ [command]) = numbered commands ++ [⟨commands.length, command⟩] := by
  simp [numbered, List.zipIdx_append]

theorem map_call_numbered (commands : List Command) :
    (numbered commands).map Letter.call = List.range commands.length := by
  induction commands using List.reverseRecOn with
  | nil => rfl
  | append_singleton commands command ih =>
    rw [numbered_concat, List.map_append, ih, List.length_append, List.length_singleton,
      List.range_succ]
    rfl

/-! ### One move -/

/-- The state that some moves lead to, if the worker has served some turns by them. -/
structure Serves (first : Worker) (turns : List Worker.Turn) (moves : List Move)
    (effects : List Effect) (worker : Worker) (replies : List (Nat × Reply))
    (exchange : Exchange κ) : Prop where
  served : first.Served turns worker replies
  working : exchange.server.worker = some worker
  announced : Effect.events effects = Effect.events (first.serveAll turns).effects
  queued : letters turns ++ exchange.waiting = numbered (placements moves)
  calls : exchange.calls = (placements moves).length
  answered : exchange.answers.Sublist replies
  heard : ∀ reply ∈ replies, reply ∈ exchange.answers ∨ reply.1 ∈ exchange.forsaken
  forsaken : ∀ call ∈ exchange.forsaken, .forsake call ∈ moves
  ended : exchange.stopped = true → exchange.waiting = [] ∧ exchange.handles = 0

variable {first worker : Worker} {turns : List Worker.Turn} {replies : List (Nat × Reply)}

/-- A move by which the worker does nothing and nothing is placed. -/
theorem Serves.idle (h : exchange.Serves first turns moves effects worker replies)
    (hidles : exchange.Idles next more) (hturn : exchange.turn? move = none)
    (hplaced : placed? move = none) (hwaiting : next.waiting = exchange.waiting)
    (hcalls : next.calls = exchange.calls)
    (hforsaken : ∀ call, call ∈ next.forsaken ↔ call ∈ exchange.forsaken ∨ move = .forsake call)
    (hended : next.stopped = true → next.waiting = [] ∧ next.handles = 0) :
    next.Serves first (turns ++ (exchange.turn? move).toList) (moves ++ [move]) (effects ++ more)
      worker replies := by
  have hplacements : placements (moves ++ [move]) = placements moves := by
    rw [placements_concat, hplaced, Option.toList_none, List.append_nil]
  rw [hturn, Option.toList_none, List.append_nil]
  refine ⟨h.served, hidles.worker.trans h.working, ?_, ?_, ?_, ?_, ?_, ?_, hended⟩
  · rw [Effect.events_append, hidles.silent, List.append_nil, h.announced]
  · rw [hwaiting, hplacements, h.queued]
  · rw [hcalls, hplacements, h.calls]
  · rw [hidles.answers]
    exact h.answered
  · intro reply hmem
    rw [hidles.answers, hforsaken]
    exact (h.heard reply hmem).imp_right .inl
  · intro call hmem
    rcases (hforsaken call).1 hmem with hbefore | rfl
    · exact List.mem_append_left _ (h.forsaken call hbefore)
    · exact List.mem_append_right _ List.mem_cons_self

/-- A command is placed behind those that wait. -/
theorem Serves.place (h : exchange.Serves first turns moves effects worker replies)
    {command : Command} (hmove : exchange.move (.place command) = some (more, next)) :
    next.Serves first turns (moves ++ [.place command]) (effects ++ more) worker replies := by
  cases happens_of_move hmove with
  | @place _ queue hheld hsend =>
    have hwaiting : Mailbox.waiting queue = exchange.waiting ++ [⟨exchange.calls, command⟩] :=
      Mailbox.waiting_send hsend
    have hplacements : placements (moves ++ [.place command]) = placements moves ++ [command] :=
      placements_concat moves _
    refine ⟨h.served, h.working, ?_, ?_, ?_, h.answered, h.heard, ?_, ?_⟩
    · rw [List.append_nil, h.announced]
    · show letters turns ++ Mailbox.waiting queue = _
      rw [hwaiting, hplacements, numbered_concat, ← h.calls, ← h.queued, List.append_assoc]
    · rw [hplacements, List.length_append, List.length_singleton, h.calls]
    · exact fun call hmem => List.mem_append_left _ (h.forsaken call hmem)
    · exact fun hstopped => absurd (h.ended hstopped).2 hheld

/-- The first command that waits is handled, and its caller is replied to. -/
theorem Serves.receive (h : exchange.Serves first turns moves effects worker replies)
    (hmove : exchange.move .receive = some (more, next)) :
    ∃ letter after reply, exchange.turn? .receive = some (.letter letter) ∧
      next.Serves first (turns ++ [.letter letter]) (moves ++ [.receive]) (effects ++ more) after
        (replies ++ [(letter.call, reply)]) := by
  cases happens_of_move hmove with
  | @receive serving letter queue _ _ hserving htake hsettle =>
    have hwaiting : exchange.waiting = letter :: Mailbox.waiting queue := Mailbox.waiting_take htake
    have hrunning := (running_of_worker? hserving).1
    obtain ⟨after, reply, hhandle, hserved⟩ := h.served.letter letter
    have hplacements : placements (moves ++ [.receive]) = placements moves := by
      rw [placements_concat]
      exact List.append_nil _
    rw [Server.request, Server.perform_of_ok h.working hhandle] at hsettle
    simp only [settle, Prod.mk.injEq] at hsettle
    obtain ⟨rfl, rfl⟩ := hsettle
    refine ⟨letter, after, reply, by rw [turn?, hwaiting]; rfl, ?_⟩
    rw [answer_snd]
    refine ⟨hserved, rfl, ?_, ?_, ?_, ?_, ?_, ?_, ?_⟩
    · rw [Effect.events_append, Effect.events_append, events_answer, List.append_nil, h.announced,
        Worker.events_serveAll_concat h.served.result, Worker.effects_serve_letter]
    · rw [hplacements, ← h.queued, hwaiting, Worker.letters_append, List.append_assoc]
      rfl
    · rw [hplacements]
      exact h.calls
    · apply h.answered.append
      split
      · exact List.nil_sublist _
      · exact List.Sublist.refl _
    · intro given hmem
      rcases List.mem_append.1 hmem with hbefore | hnow
      · exact (h.heard given hbefore).imp_left (List.mem_append_left _)
      · obtain rfl := List.mem_singleton.1 hnow
        by_cases hforsaken : letter.call ∈ exchange.forsaken
        · exact .inr hforsaken
        · rw [if_neg hforsaken]
          exact .inl (List.mem_append_right _ hnow)
    · exact fun call hmem => List.mem_append_left _ (h.forsaken call hmem)
    · intro hstopped
      rw [hrunning] at hstopped
      cases hstopped

/-- A tick is done, and nobody is replied to. -/
theorem Serves.tick (h : exchange.Serves first turns moves effects worker replies)
    (hmove : exchange.move .tick = some (more, next))
    (htime : ¬ Schedule.never ≤ exchange.server.now + first.schedule.period) :
    ∃ after, next.Serves first (turns ++ [.tick exchange.server.now]) (moves ++ [.tick])
      (effects ++ more) after replies := by
  obtain ⟨hserving, hdue⟩ : exchange.worker? = some worker ∧
      worker.schedule.isDue exchange.server.now = true := by
    cases happens_of_move hmove with
    | tick hserving hdue hsettle =>
      cases (running_of_worker? hserving).2.symm.trans h.working
      exact ⟨hserving, hdue⟩
  obtain ⟨after, htick, hserved⟩ := h.served.tick hdue htime
  rw [move_tick hserving hdue htick] at hmove
  cases hmove
  have hplacements : placements (moves ++ [.tick]) = placements moves := by
    rw [placements_concat]
    exact List.append_nil _
  refine ⟨after, hserved, rfl, ?_, ?_, ?_, h.answered, h.heard, ?_, h.ended⟩
  · rw [Effect.events_append, h.announced, Worker.events_serveAll_concat h.served.result,
      Worker.effects_serve_tick]
  · rw [hplacements, ← h.queued, Worker.letters_append]
    exact congrArg (· ++ _) (List.append_nil _)
  · rw [hplacements]
    exact h.calls
  · exact fun call hmem => List.mem_append_left _ (h.forsaken call hmem)

/-- Whatever happens, the worker does its turn if it is to do one. -/
theorem Serves.step (h : exchange.Serves first turns moves effects worker replies)
    (hmove : exchange.move move = some (more, next))
    (htime : ¬ Schedule.never ≤ exchange.server.now + first.schedule.period) :
    ∃ after given, next.Serves first (turns ++ (exchange.turn? move).toList) (moves ++ [move])
      (effects ++ more) after given := by
  have hidles := idles_of_move hmove
  cases happens_of_move hmove with
  | receive =>
    obtain ⟨letter, after, reply, hturn, hserves⟩ := h.receive hmove
    refine ⟨after, replies ++ [(letter.call, reply)], ?_⟩
    rw [hturn]
    exact hserves
  | tick =>
    obtain ⟨after, hserves⟩ := h.tick hmove htime
    exact ⟨after, replies, hserves⟩
  | @place command =>
    refine ⟨worker, replies, ?_⟩
    have hturn : exchange.turn? (.place command) = none := rfl
    rw [hturn, Option.toList_none, List.append_nil]
    exact h.place hmove
  | clone hheld | drop hheld =>
    refine ⟨worker, replies, h.idle (hidles (by simp) (by simp)) rfl rfl rfl rfl (by simp) ?_⟩
    exact fun hstopped => absurd (h.ended hstopped).2 hheld
  | forsake =>
    refine ⟨worker, replies,
      h.idle (hidles (by simp) (by simp)) rfl rfl rfl rfl (fun other => ?_) h.ended⟩
    rw [List.mem_cons, or_comm, Move.forsake.injEq, eq_comm]
  | wait span =>
    exact ⟨worker, replies, h.idle (hidles (by simp) (by simp)) rfl rfl rfl rfl (by simp) h.ended⟩
  | stop hserving htake hgone =>
    have hclosed : Mailbox.waiting (Mailbox.close exchange.queue) = [] := Mailbox.waiting_close _
    have hnone : exchange.waiting = [] := Mailbox.waiting_of_none htake
    exact ⟨worker, replies, h.idle (hidles (by simp) (by simp)) rfl rfl (hclosed.trans hnone.symm)
      rfl (by simp) fun _ => ⟨hclosed, hgone⟩⟩

/-! ### Runs -/

theorem turns_cons {middle : Exchange κ} (h : exchange.move move = some (effects, middle))
    (moves : List Move) :
    exchange.turns (move :: moves) = (exchange.turn? move).toList ++ middle.turns moves := by
  rw [Exchange.turns, h]

/-- Whatever happens after, the worker does one turn after the other. -/
theorem Serves.run {last : Exchange κ} {rest : List Move}
    (h : exchange.Serves first turns moves effects worker replies)
    (hrun : exchange.run rest = some (more, last))
    (htime : ¬ Schedule.never ≤ last.server.now + first.schedule.period) :
    ∃ after given, last.Serves first (turns ++ exchange.turns rest) (moves ++ rest)
      (effects ++ more) after given := by
  induction rest generalizing exchange turns moves effects more worker replies with
  | nil =>
    cases hrun
    refine ⟨worker, replies, ?_⟩
    rw [Exchange.turns, List.append_nil, List.append_nil, List.append_nil]
    exact h
  | cons move rest ih =>
    obtain ⟨some, middle, later, hmove, hrest, rfl⟩ := run_cons hrun
    have hnow : exchange.server.now ≤ last.server.now := now_le_of_run hrun
    have hsoon : ¬ Schedule.never ≤ exchange.server.now + first.schedule.period := by
      intro hnever
      exact htime (Nat.le_trans hnever (Nat.add_le_add_right hnow _))
    obtain ⟨after, given, hserves⟩ := h.step hmove hsoon
    obtain ⟨worker, replies, hlast⟩ := ih hserves hrest
    refine ⟨worker, replies, ?_⟩
    rw [turns_cons hmove, ← List.append_assoc, List.append_cons, ← List.append_assoc]
    exact hlast

theorem serves_start {context : CharacterContext} {format : Load Unit} {period : Duration}
    {capacity : Nat} (hkeeping : context.callbacks.Keeping)
    (h : Exchange.open? { context, format } period capacity = some exchange) :
    ∃ first, exchange.server.worker = some first ∧ first.schedule.period = period ∧
      exchange.Serves first [] [] [] first [] := by
  obtain ⟨first, hfirst, hrest⟩ := Option.bind_eq_some_iff.1 h
  obtain ⟨queue, hqueue, heq⟩ := Option.bind_eq_some_iff.1 hrest
  cases heq
  obtain ⟨hserved, hperiod⟩ := Worker.served_start hkeeping hfirst
  have hnone : Mailbox.waiting queue = [] := Mailbox.waiting_open hqueue
  refine ⟨first, rfl, hperiod, hserved, rfl, rfl, hnone, rfl, .refl _, ?_, ?_, ?_⟩
  · exact fun _ hmem => absurd hmem List.not_mem_nil
  · exact fun _ hmem => absurd hmem List.not_mem_nil
  · exact fun hstopped => absurd hstopped Bool.false_ne_true

/-- No call is answered twice. -/
theorem Serves.nodup (h : exchange.Serves first turns moves effects worker replies) :
    (exchange.answers.map Prod.fst).Nodup := by
  have hcalls : (letters turns).map Letter.call ++ exchange.waiting.map Letter.call =
      List.range (placements moves).length := by
    rw [← List.map_append, h.queued, map_call_numbered]
  have hreplies : (replies.map Prod.fst).Sublist (List.range (placements moves).length) := by
    rw [h.served.calls, ← hcalls]
    exact List.sublist_append_left _ _
  exact List.nodup_range.sublist ((h.answered.map Prod.fst).trans hreplies)

/-- A command that waits can be received. -/
theorem Serves.exists_receive (h : exchange.Serves first turns moves effects worker replies)
    (hwaits : exchange.waiting ≠ []) : ∃ more next, exchange.move .receive = some (more, next) := by
  have hrunning : exchange.stopped = false := by
    by_contra hstopped
    exact hwaits (h.ended (eq_true_of_ne_false hstopped)).1
  obtain ⟨letter, rest, hwaiting⟩ := List.exists_cons_of_ne_nil hwaits
  obtain ⟨queue, htake, -⟩ := Mailbox.take?_of_waiting hwaiting
  rw [Exchange.move, worker?_of_running hrunning, h.working, htake]
  exact ⟨_, _, rfl⟩

/-- However commands are placed, by however many handles, and however ticks come in between: as long as
scripts take no component away and there is time for one more tick, the worker does what it would do if
it were handed the commands one at a time, in the order in which they were placed, with the ticks in
between. Its simulation and what it announces are the same, every command that was placed is handled once
or still waits and can be received, its caller is replied to at most once, and is unless it has gone
away, and the worker stops only when no command and no handle is left. As long as ids do not run out,
what is announced of an entity reads as a visit. -/
theorem served_in_order {context : CharacterContext} {format : Load Unit} {period : Duration}
    {capacity : Nat} {start last : Exchange κ} {moves : List Move} {effects : List Effect}
    (hkeeping : context.callbacks.Keeping)
    (hopen : Exchange.open? { context, format } period capacity = some start)
    (hrun : start.run moves = some (effects, last))
    (htime : ¬ Schedule.never ≤ last.server.now + period) :
    ∃ first worker replies, start.server.worker = some first ∧ last.server.worker = some worker ∧
      (first.serveAll (start.turns moves)).result = .ok (worker, replies) ∧
      Effect.events effects = Effect.events (first.serveAll (start.turns moves)).effects ∧
      letters (start.turns moves) ++ last.waiting = numbered (placements moves) ∧
      (last.waiting ≠ [] → ∃ more next, last.move .receive = some (more, next)) ∧
      replies.map Prod.fst = (letters (start.turns moves)).map Letter.call ∧
      last.answers.Sublist replies ∧ (last.answers.map Prod.fst).Nodup ∧
      (∀ reply ∈ replies, reply ∈ last.answers ∨ .forsake reply.1 ∈ moves) ∧
      (last.stopped = true → last.waiting = [] ∧ last.handles = 0) ∧
      ((Worker.entrants replies).length < UInt32.size - 1 → ∀ entity,
        ServerEvent.BeginsVisit entity (ServerEvent.about entity (Effect.events effects))) := by
  obtain ⟨first, hfirst, hperiod, hstart⟩ := serves_start hkeeping hopen
  subst hperiod
  obtain ⟨worker, replies, hlast⟩ := hstart.run hrun htime
  rw [List.nil_append, List.nil_append, List.nil_append] at hlast
  refine ⟨first, worker, replies, hfirst, hlast.working, hlast.served.result, hlast.announced,
    hlast.queued, hlast.exists_receive, hlast.served.calls, hlast.answered, hlast.nodup, ?_,
    hlast.ended, ?_⟩
  · intro reply hmem
    exact (hlast.heard reply hmem).imp_right (hlast.forsaken reply.1)
  · intro hfew entity
    rw [hlast.announced]
    exact hlast.served.chronicles.beginsVisit hfew entity

/-- Two callers, one of whom does not stay for its answer, and the end of the worker. -/
def sampleMoves : List Move :=
  [.place (.login Character.sampleLogin none), .clone, .place (.disconnect ⟨1⟩), .receive,
    .forsake 1, .tick, .receive, .drop, .wait (.ofMillis 100), .tick, .drop, .stop]

/-- Both calls are handled before the worker stops, and a visit is announced. -/
theorem served_in_order_of_sample : ∃ start : Exchange (Channel Letter), ∃ effects last,
    Exchange.open? .sample (.ofMillis 100) 4 = some start ∧
      start.run sampleMoves = some (effects, last) ∧ last.stopped = true ∧
      letters (start.turns sampleMoves) = numbered (placements sampleMoves) ∧
      ServerEvent.BeginsVisit ⟨1⟩ (ServerEvent.about ⟨1⟩ (Effect.events effects)) := by
  have hview : (do
      let start : Exchange (Channel Letter) ← Exchange.open? .sample (.ofMillis 100) 4
      let ran ← start.run sampleMoves
      return (ran.2.stopped, decide (Schedule.never ≤ ran.2.server.now + .ofMillis 100))) =
      some (true, false) := by decide +kernel
  obtain ⟨start, hopen, hview⟩ := Option.bind_eq_some_iff.1 hview
  obtain ⟨⟨effects, last⟩, hrun, hview⟩ := Option.bind_eq_some_iff.1 hview
  simp only [Option.pure_def, Option.some.injEq, Prod.mk.injEq, decide_eq_false_iff_not] at hview
  obtain ⟨hstopped, htime⟩ := hview
  obtain ⟨first, worker, replies, -, -, -, -, hqueued, -, hcalls, -, -, -, hended, hvisits⟩ :=
    served_in_order ScriptCallbacks.keeping_none hopen hrun htime
  rw [(hended hstopped).1, List.append_nil] at hqueued
  refine ⟨start, effects, last, hopen, hrun, hstopped, hqueued, hvisits ?_ ⟨1⟩⟩
  rw [hqueued, map_call_numbered] at hcalls
  have hlength : replies.length = (placements sampleMoves).length := by
    simpa using congrArg List.length hcalls
  have htwo : (placements sampleMoves).length = 2 := rfl
  have hfew : (Worker.entrants replies).length ≤ replies.length := List.length_filterMap_le _ _
  have hsize : UInt32.size = 4294967296 := rfl
  omega

/-! ### A worker that is lost -/

/-- A character whose death takes its body. -/
def mortal : Simulation :=
  { context := { registry := .sample,
                 callbacks := .ofActions (some [.remove .being]) none none false } }

/-- Two callers ask for a death and for what is known of somebody else; then there is a tick. -/
def mortalMoves : List Move :=
  [.place (.login Character.sampleLogin none), .place (.damage ⟨1⟩ 1000), .place (.status ⟨99⟩),
    .receive, .receive, .tick]

/-- Where a script takes a component away, a tick is the end of the worker, though there is a handle and
a command waits; this is never handled, and never answered. -/
theorem unserved_of_removing : ∃ start : Exchange (Channel Letter), ∃ effects last,
    Exchange.open? mortal (.ofMillis 100) 4 = some start ∧
      start.run mortalMoves = some (effects, last) ∧ last.handles = 1 ∧
      letters (start.turns mortalMoves) ++ last.waiting ≠ numbered (placements mortalMoves) ∧
      ∀ moves more later reply, last.run moves = some (more, later) →
        (2, reply) ∉ later.answers := by
  have hview : (do
      let start : Exchange (Channel Letter) ← Exchange.open? mortal (.ofMillis 100) 4
      let ran ← start.run mortalMoves
      return (ran.2.handles, ran.2.server.worker.isNone, ran.2.answers.map Prod.fst,
        (letters (start.turns mortalMoves) ++ ran.2.waiting).length)) =
      some (1, true, [0, 1], 2) := by decide +kernel
  obtain ⟨start, hopen, hview⟩ := Option.bind_eq_some_iff.1 hview
  obtain ⟨⟨effects, last⟩, hrun, hview⟩ := Option.bind_eq_some_iff.1 hview
  simp only [Option.pure_def, Option.some.injEq, Prod.mk.injEq, Option.isNone_iff_eq_none] at hview
  obtain ⟨hhandles, hlost, hanswers, hlength⟩ := hview
  refine ⟨start, effects, last, hopen, hrun, hhandles, ?_, ?_⟩
  · intro heq
    rw [heq] at hlength
    exact absurd hlength (by decide)
  · intro moves more later reply hlater hmem
    have hcall : 2 ∈ later.answers.map Prod.fst := List.mem_map.2 ⟨(2, reply), hmem, rfl⟩
    rw [run_of_lost hlost hlater, hanswers] at hcall
    simp at hcall

end Exchange

end CharacterSim
