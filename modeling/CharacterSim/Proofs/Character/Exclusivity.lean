import CharacterSim.Character.Transaction
import CharacterSim.Proofs.Collections.Latest
import CharacterSim.Proofs.Step
import Mathlib.Data.List.Induction

/-! Exclusive transactions along a run of dealings, in which owners may release their sessions at
any time. What is active is what was entered last, and it is told to cancel when something else is
entered in its place or nothing is, unless it was released or cleared before. -/

namespace CharacterSim

/-- The sessions that effects tell to cancel. -/
def Effect.cancellations (effects : List Effect) : List SessionId :=
  effects.filterMap fun
    | .cancelled session => some session
    | _ => none

theorem Effect.cancellations_append (effects later : List Effect) :
    cancellations (effects ++ later) = cancellations effects ++ cancellations later :=
  List.filterMap_append

/-- What can happen to the transaction of a character: a trade or a session with a merchant is
entered, or cleared when none is given; what is active is cancelled; or an owner releases a
session. -/
inductive Dealing where
  | trade (session : Option SessionId)
  | buySell (session : Option SessionId)
  | cancel
  | release (session : SessionId)

namespace Dealing

/-- Whether what is active is cancelled, rather than cleared or left alone. -/
def cancels : Dealing → Bool
  | trade session => session.isSome
  | buySell session => session.isSome
  | cancel => true
  | release _ => false

def IsRelease : Dealing → Prop
  | release _ => True
  | _ => False

/-- After the dealing there were only releases. -/
def Stands (dealings : List Dealing) (dealing : Dealing) : Prop :=
  Since (· = dealing) (¬ ·.IsRelease) dealings

/-- A session was entered, after which there were only releases. -/
def Entered (dealings : List Dealing) (session : SessionId) : Prop :=
  (trade (some session)).Stands dealings ∨ (buySell (some session)).Stands dealings

/-- The mistake that it is to clear one kind of transaction while the other is active. -/
def mistake? (active : Transaction) : Dealing → Option Fault
  | trade none => if active.kind = .buySell then some (.clearedTrade .buySell) else none
  | buySell none => if active.kind = .trade then some (.clearedBuySell .trade) else none
  | _ => none

/-- What is active after the dealing, unless it is a mistake. -/
def next (active : Transaction) : Dealing → Transaction
  | trade (some session) => .trade session
  | buySell (some session) => .buySell session
  | release _ => active
  | _ => .none

/-- The dealing by which a transaction is entered. -/
def entering : Transaction → Dealing
  | .trade session => trade (some session)
  | .buySell session => buySell (some session)
  | .none => cancel

/-- The session that is released. -/
def released? : Dealing → Option SessionId
  | release session => some session
  | _ => none

variable {active : Transaction} {dealing last : Dealing} {dealings : List Dealing}
  {session : SessionId}

theorem stands_concat : dealing.Stands (dealings ++ [last]) ↔
    last = dealing ∨ last.IsRelease ∧ dealing.Stands dealings := by
  rw [Stands, since_concat, not_not, and_comm]
  rfl

/-- A transaction is active if it has just been entered, or was before and was only released. -/
theorem next_eq_iff {entered : Transaction} (h : entered ≠ .none) : dealing.next active = entered ↔
    dealing = entering entered ∨ dealing.IsRelease ∧ active = entered := by
  cases dealing with
  | trade session => cases session <;> cases entered <;> simp [next, IsRelease, entering] at h ⊢
  | buySell session => cases session <;> cases entered <;> simp [next, IsRelease, entering] at h ⊢
  | cancel => cases entered <;> simp [next, IsRelease, entering] at h ⊢
  | release session => cases entered <;> simp [next, IsRelease, entering] at h ⊢

end Dealing

/-- The transaction of a character, and the sessions that were released. -/
structure Business where
  active : Transaction := .none
  released : List SessionId := []

namespace Business

def alive (business : Business) (session : SessionId) : Bool := session ∉ business.released

/-- One dealing. -/
def deal (business : Business) : Dealing → Step Business
  | .trade session => do
    return { business with active := ← business.active.setTrading business.alive session }
  | .buySell session => do
    return { business with active := ← business.active.setBuySell business.alive session }
  | .cancel => do return { business with active := ← business.active.cancel business.alive }
  | .release session => return { business with released := session :: business.released }

/-- One dealing after the other, at first with nothing active and all sessions alive. -/
def dealAll (dealings : List Dealing) : Step Business := dealings.foldlM deal {}

/-- The session that is active and still alive. -/
def live? (business : Business) : Option SessionId :=
  business.active.session?.filter business.alive

variable {business : Business} {dealings : List Dealing} {dealing : Dealing}
  {session : SessionId}

theorem dealAll_concat (dealings : List Dealing) (dealing : Dealing) :
    dealAll (dealings ++ [dealing]) =
      dealAll dealings >>= fun business => business.deal dealing := by
  simp [dealAll]

/-! ### One dealing -/

/-- Whatever is active, nothing is once it was cancelled; and it was told so, if it is alive. -/
theorem cancel_spec (active : Transaction) (alive : SessionId → Bool) :
    (active.cancel alive).result = .ok .none ∧
      Effect.cancellations (active.cancel alive).effects =
        (active.session?.filter alive).toList := by
  unfold Transaction.cancel
  cases active.session? with
  | none => exact ⟨rfl, rfl⟩
  | some session =>
    rw [Option.filter_some]
    dsimp only
    cases alive session with
    | true => exact ⟨rfl, rfl⟩
    | false => exact ⟨rfl, rfl⟩

theorem result_deal (business : Business) (dealing : Dealing) : (business.deal dealing).result =
    match dealing.mistake? business.active with
    | some fault => .error fault
    | none =>
      .ok ⟨dealing.next business.active, dealing.released?.toList ++ business.released⟩ := by
  have hcancel := (cancel_spec business.active business.alive).1
  obtain ⟨active, released⟩ := business
  cases dealing with
  | trade entered =>
    cases entered with
    | some session => exact Step.result_bind_of_ok (Step.result_bind_of_ok hcancel rfl) rfl
    | none => cases active <;> rfl
  | buySell entered =>
    cases entered with
    | some session => exact Step.result_bind_of_ok (Step.result_bind_of_ok hcancel rfl) rfl
    | none => cases active <;> rfl
  | cancel => exact Step.result_bind_of_ok hcancel rfl
  | release session => rfl

/-- A dealing that cancels tells the session that is active, if it is alive; no other tells any. -/
theorem cancellations_deal (business : Business) (dealing : Dealing) :
    Effect.cancellations (business.deal dealing).effects =
      if dealing.cancels then business.live?.toList else [] := by
  have hcancel := (cancel_spec business.active business.alive).2
  obtain ⟨active, released⟩ := business
  cases dealing with
  | trade entered =>
    rw [deal, Step.effects_bind_pure]
    cases entered with
    | some session =>
      rw [Transaction.setTrading, Step.effects_bind_pure]
      exact hcancel
    | none => cases active <;> rfl
  | buySell entered =>
    rw [deal, Step.effects_bind_pure]
    cases entered with
    | some session =>
      rw [Transaction.setBuySell, Step.effects_bind_pure]
      exact hcancel
    | none => cases active <;> rfl
  | cancel =>
    rw [deal, Step.effects_bind_pure]
    exact hcancel
  | release session => rfl

/-! ### A run -/

/-- What a run of dealings leaves: active is what was entered last, and released is what owners
released. -/
structure Accounts (dealings : List Dealing) (business : Business) : Prop where
  active : ∀ entered, entered ≠ .none →
    (business.active = entered ↔ (Dealing.entering entered).Stands dealings)
  released : ∀ session, session ∈ business.released ↔ .release session ∈ dealings

theorem accounts_of_dealAll (h : (dealAll dealings).result = .ok business) :
    business.Accounts dealings := by
  induction dealings using List.reverseRecOn generalizing business with
  | nil =>
    cases h
    refine ⟨fun entered hentered => ?_, fun session => by simp⟩
    exact iff_of_false (Ne.symm hentered) not_since_nil
  | append_singleton earlier dealing ih =>
    rw [dealAll_concat] at h
    obtain ⟨before, hbefore, h, -⟩ := Step.bind_eq_ok h
    rw [result_deal] at h
    split at h
    · cases h
    cases h
    obtain ⟨hactive, hreleased⟩ := ih hbefore
    refine ⟨fun entered hentered => ?_, fun session => ?_⟩
    · rw [Dealing.next_eq_iff hentered, Dealing.stands_concat, hactive entered hentered]
    · rw [List.mem_append, hreleased, List.mem_append, List.mem_singleton, or_comm]
      refine or_congr_right ?_
      cases dealing <;> simp [Dealing.released?, eq_comm]

namespace Accounts

variable (h : business.Accounts dealings)
include h

theorem trade_iff :
    business.active = .trade session ↔ (Dealing.trade (some session)).Stands dealings :=
  h.active (.trade session) nofun

theorem buySell_iff :
    business.active = .buySell session ↔ (Dealing.buySell (some session)).Stands dealings :=
  h.active (.buySell session) nofun

theorem alive_iff : business.alive session = true ↔ .release session ∉ dealings := by
  rw [alive, decide_eq_true_iff, h.released]

theorem trading?_eq_some_iff : business.active.trading? business.alive = some session ↔
    (Dealing.trade (some session)).Stands dealings ∧ .release session ∉ dealings := by
  rw [← h.trade_iff, ← h.alive_iff]
  cases business.active with
  | trade active => grind [Transaction.trading?]
  | none => simp [Transaction.trading?]
  | buySell active => simp [Transaction.trading?]

theorem buySell?_eq_some_iff : business.active.buySell? business.alive = some session ↔
    (Dealing.buySell (some session)).Stands dealings ∧ .release session ∉ dealings := by
  rw [← h.buySell_iff, ← h.alive_iff]
  cases business.active with
  | buySell active => grind [Transaction.buySell?]
  | none => simp [Transaction.buySell?]
  | trade active => simp [Transaction.buySell?]

theorem live?_eq_some_iff : business.live? = some session ↔
    Dealing.Entered dealings session ∧ .release session ∉ dealings := by
  rw [Dealing.Entered, ← h.trade_iff, ← h.buySell_iff, ← h.alive_iff, live?,
    Option.filter_eq_some_iff]
  refine and_congr_left' ?_
  cases business.active <;> simp [Transaction.session?]

theorem mistake?_eq_some_iff {fault : Fault} : dealing.mistake? business.active = some fault ↔
    (dealing = .trade none ∧ fault = .clearedTrade .buySell ∧
      ∃ session, (Dealing.buySell (some session)).Stands dealings) ∨
    (dealing = .buySell none ∧ fault = .clearedBuySell .trade ∧
      ∃ session, (Dealing.trade (some session)).Stands dealings) := by
  simp only [← h.trade_iff, ← h.buySell_iff]
  cases dealing with
  | trade entered =>
    cases entered with
    | some session => simp [Dealing.mistake?]
    | none => cases business.active <;> simp [Dealing.mistake?, Transaction.kind, eq_comm]
  | buySell entered =>
    cases entered with
    | some session => simp [Dealing.mistake?]
    | none => cases business.active <;> simp [Dealing.mistake?, Transaction.kind, eq_comm]
  | cancel => simp [Dealing.mistake?]
  | release session => simp [Dealing.mistake?]

end Accounts

/-- Exclusive transactions are accounted for. After any dealings, the trade is the session that was
entered last, if it was entered as a trade, there were only releases since, and it was not released;
in the same way with merchants; so there is at most one of both. A further dealing tells a session
to cancel, once, if and only if it enters a session or cancels and the session is the one that is
active and alive; and it does so before the new session is active. It is a mistake only if it clears
one kind while the other is active. -/
theorem transactions_accounted_for (h : (dealAll dealings).result = .ok business) :
    (∀ session, business.active.trading? business.alive = some session ↔
      (Dealing.trade (some session)).Stands dealings ∧ .release session ∉ dealings) ∧
    (∀ session, business.active.buySell? business.alive = some session ↔
      (Dealing.buySell (some session)).Stands dealings ∧ .release session ∉ dealings) ∧
    (business.active.trading? business.alive = none ∨
      business.active.buySell? business.alive = none) ∧
    (∀ dealing, Effect.cancellations (dealAll (dealings ++ [dealing])).effects =
      Effect.cancellations (dealAll dealings).effects ++
        if dealing.cancels then business.live?.toList else []) ∧
    (∀ session, business.live? = some session ↔
      Dealing.Entered dealings session ∧ .release session ∉ dealings) ∧
    (business.deal .cancel).result = .ok { business with active := .none } ∧
    (∀ session, business.deal (.trade (some session)) = do
      return { ← business.deal .cancel with active := .trade session }) ∧
    (∀ session, business.deal (.buySell (some session)) = do
      return { ← business.deal .cancel with active := .buySell session }) ∧
    ∀ dealing fault, (dealAll (dealings ++ [dealing])).result = .error fault ↔
      (dealing = .trade none ∧ fault = .clearedTrade .buySell ∧
        ∃ session, (Dealing.buySell (some session)).Stands dealings) ∨
      (dealing = .buySell none ∧ fault = .clearedBuySell .trade ∧
        ∃ session, (Dealing.trade (some session)).Stands dealings) := by
  have haccounts := accounts_of_dealAll h
  refine ⟨fun session => haccounts.trading?_eq_some_iff,
    fun session => haccounts.buySell?_eq_some_iff, ?_, fun dealing => ?_,
    fun session => haccounts.live?_eq_some_iff, result_deal business .cancel, fun session => ?_,
    fun session => ?_, fun dealing fault => ?_⟩
  · cases business.active with
    | trade session => exact .inr rfl
    | _ => exact .inl rfl
  · rw [dealAll_concat, Step.bind_of_ok h, Effect.cancellations_append, cancellations_deal]
  · simp [deal, Transaction.setTrading]
  · simp [deal, Transaction.setBuySell]
  · rw [← haccounts.mistake?_eq_some_iff, dealAll_concat, Step.bind_of_ok h]
    dsimp only
    rw [result_deal]
    cases dealing.mistake? business.active <;> simp

/-- A trade gives way to a merchant, who is gone before being cancelled; then there is a trade. -/
def sampleDealings : List Dealing :=
  [.trade (some ⟨1, 0⟩), .buySell (some ⟨2, 0⟩), .release ⟨2, 0⟩, .cancel, .trade (some ⟨3, 0⟩)]

/-- Both trades are told to cancel when another merchant comes, whom it is wrong to clear before. -/
theorem transactions_accounted_for_of_sample : ∃ business,
    (dealAll sampleDealings).result = .ok business ∧
      business.active.trading? business.alive = some ⟨3, 0⟩ ∧
      Effect.cancellations (dealAll (sampleDealings ++ [.buySell (some ⟨4, 0⟩)])).effects =
        [⟨1, 0⟩, ⟨3, 0⟩] ∧
      (dealAll (sampleDealings ++ [.buySell none])).result = .error (.clearedBuySell .trade) := by
  have hrun : (dealAll sampleDealings).result = .ok ⟨.trade ⟨3, 0⟩, [⟨2, 0⟩]⟩ := rfl
  obtain ⟨htrading, -, -, hcancellations, -, -, -, -, hmistake⟩ := transactions_accounted_for hrun
  have hstands : (Dealing.trade (some ⟨3, 0⟩)).Stands sampleDealings :=
    ⟨[.trade (some ⟨1, 0⟩), .buySell (some ⟨2, 0⟩), .release ⟨2, 0⟩, .cancel], _, [], rfl, rfl,
      by simp⟩
  refine ⟨_, hrun, (htrading _).2 ⟨hstands, by simp [sampleDealings]⟩, ?_, ?_⟩
  · exact hcancellations (.buySell (some ⟨4, 0⟩))
  · exact (hmistake _ _).2 (.inr ⟨rfl, rfl, _, hstands⟩)

end Business

end CharacterSim
