import CharacterSim.Proofs.Attribute.Rebasing
import CharacterSim.Proofs.Character.LoginCodec
import Mathlib.Data.List.Nodup

/-! Logins that list the same attributes in another order. A character is made of the bases that are
left in the end, and of these the order leaves no trace. -/

namespace CharacterSim

/-- A being whose bases are set one after the other has the store that is left in the end. -/
theorem Being.clearChanged_foldl_setAttribute (being : Being) (pairs : List (AttributeId × Int32)) :
    (pairs.foldl (fun being pair =>
      (being.setAttribute pair.1 (Amount.ofFixedPoint pair.2)).1) being).clearChanged =
    { being.clearChanged with
      attributes := being.attributes.setBases
        (pairs.map fun pair => (pair.1, Amount.ofFixedPoint pair.2)) } := by
  induction pairs generalizing being with
  | nil => rfl
  | cons pair rest ih => exact ih _

theorem Being.clearChanged_of_perm {being : Being} (h : being.attributes.registry.Coherent)
    {first second : List (AttributeId × Int32)} (hdistinct : (first.map Prod.fst).Nodup)
    (hperm : first.Perm second) :
    (first.foldl (fun being pair =>
      (being.setAttribute pair.1 (Amount.ofFixedPoint pair.2)).1) being).clearChanged =
    (second.foldl (fun being pair =>
      (being.setAttribute pair.1 (Amount.ofFixedPoint pair.2)).1) being).clearChanged := by
  have hlatest : ∀ id, latest (first.map fun pair => (pair.1, Amount.ofFixedPoint pair.2)) id =
      latest (second.map fun pair => (pair.1, Amount.ofFixedPoint pair.2)) id := by
    refine latest_eq_of_perm ?_ (hperm.map _)
    rw [List.map_map]
    exact hdistinct
  rw [clearChanged_foldl_setAttribute, clearChanged_foldl_setAttribute,
    (AttributeStore.rebased_setBases h _).unique (AttributeStore.rebased_setBases h _) hlatest]

namespace LoginData

/-- No attribute is meant by two numbers that may be said. -/
theorem attributeOf_inj {first second : Int16} (hfirst : 0 ≤ first) (hsecond : 0 ≤ second)
    (h : attributeOf first = attributeOf second) : first = second := by
  have hnumbers := congrArg UInt16.toNat (AttributeId.mk.inj h)
  rw [UInt16.toNat_ofNat', UInt16.toNat_ofNat'] at hnumbers
  have hfirst' := Int16.le_iff_toInt_le.1 hfirst
  have hsecond' := Int16.le_iff_toInt_le.1 hsecond
  have hbelow := first.toInt_lt
  have hbelow' := second.toInt_lt
  rw [Int16.toInt_zero] at hfirst' hsecond'
  exact Int16.toInt_inj.1 (by omega)

theorem nodup_bases {context : CharacterContext} {login : LoginData}
    (hlogin : login.Admissible context) (h : (login.attributes.map Prod.fst).Nodup) :
    (login.bases.map Prod.fst).Nodup := by
  have hbases : login.bases.map Prod.fst = (login.attributes.map Prod.fst).map attributeOf := by
    rw [bases, List.map_map, List.map_map]
    rfl
  have hnonneg : ∀ number ∈ login.attributes.map Prod.fst, 0 ≤ number := by
    intro number hmem
    obtain ⟨entry, hentry, rfl⟩ := List.mem_map.1 hmem
    exact (hlogin.attributes.2 entry hentry).1
  rw [hbases]
  refine List.Nodup.map_on (fun first hfirst second hsecond => ?_) h
  exact attributeOf_inj (hnonneg first hfirst) (hnonneg second hsecond)

end LoginData

namespace Character

variable {context : CharacterContext} {login : LoginMessage} {id : EntityId}
  {client : Option ClientId}

theorem admissible_of_perm {entries : List (Int16 × Int32)} (hlogin : login.Admissible context)
    (hperm : login.attributes.Perm entries) :
    LoginMessage.Admissible context { login with attributes := entries } where
  attributePoints := hlogin.attributePoints
  correctionPoints := hlogin.correctionPoints
  attributes := by
    rw [← hperm.length_eq]
    exact ⟨hlogin.attributes.1, fun entry hmem => hlogin.attributes.2 entry (hperm.mem_iff.2 hmem)⟩
  map := hlogin.map
  kills := hlogin.kills
  abilities := hlogin.abilities
  name := hlogin.name

/-- Of what has changed of a being, its character is told nothing. -/
theorem newborn_of_clearChanged {databaseId : Int32} (data : CharacterData) {being : Being}
    (h : being.clearChanged = data.being.clearChanged) :
    newborn id context client databaseId { data with being } =
      newborn id context client databaseId data := by
  unfold newborn
  dsimp only
  rw [h]

/-- The order in which a message lists bases leaves no trace in the character. -/
theorem ofLogin_of_perm {entries : List (Int16 × Int32)} (h : context.registry.Coherent)
    (hlogin : login.Admissible context) (hdistinct : (login.attributes.map Prod.fst).Nodup)
    (hperm : login.attributes.Perm entries) :
    ofLogin id context client { login with attributes := entries } =
      ofLogin id context client login := by
  have hstore : (CharacterData.initial context login.name).being.attributes.registry.Coherent :=
    (AttributeStore.registry_recalculateEach _).symm ▸ h
  have hbases : (login.bases.map Prod.fst).Nodup :=
    LoginData.nodup_bases hlogin.toAdmissible hdistinct
  exact newborn_of_clearChanged ((CharacterData.initial context login.name).loaded login.toLoginData)
    (Being.clearChanged_of_perm hstore hbases (hperm.map _)).symm

/-- A store of any records ends up with the last base that is set for each attribute, and with modified
values recalculated from these; nothing else about how they were set matters. So a login makes the
same character whatever the order in which it lists the bases of different attributes. -/
theorem order_of_bases_irrelevant {registry : AttributeRegistry} (h : registry.Accepted) :
    (∀ store : AttributeStore, store.registry = registry → ∀ first,
      store.Rebased first (store.setBases first) ∧
      ∀ second, (∀ id, latest first id = latest second id) →
        store.setBases first = store.setBases second) ∧
    ∀ (context : CharacterContext) (login : LoginMessage) (entries : List (Int16 × Int32)),
      context.registry = registry → login.Admissible context →
      (login.attributes.map Prod.fst).Nodup → login.attributes.Perm entries →
      ∀ id client message rest message' rest', message.Spells login.bytes rest →
        message'.Spells { login with attributes := entries : LoginMessage }.bytes rest' →
        ∃ character, logIn id context client message = .ok (.ok character, rest) ∧
          logIn id context client message' = .ok (.ok character, rest') := by
  refine ⟨?_, ?_⟩
  · rintro store rfl first
    have hfirst := AttributeStore.rebased_setBases h.coherent first
    refine ⟨hfirst, fun second hlast => ?_⟩
    exact hfirst.unique (AttributeStore.rebased_setBases h.coherent second) hlast
  · rintro context login entries rfl hlogin hdistinct hperm id client message rest message' rest'
      hspells hspells'
    refine ⟨ofLogin id context client login, logIn_of_spells id client h hlogin hspells, ?_⟩
    rw [logIn_of_spells id client h (admissible_of_perm hlogin hperm) hspells',
      ofLogin_of_perm h.coherent hlogin hdistinct hperm]

/-- A message that gives bases to strength and to full vitality, which derives from it. -/
def pairedMessage : LoginMessage :=
  { sampleMessage with attributes := [(1, 1536), (14, -256)] }

/-- Full vitality that is stale to begin with ends up the same, and so does a character that is told of
full vitality first. -/
theorem order_of_bases_irrelevant_of_sample :
    let store := (AttributeStore.empty .sample).performAll [.create .maxHp 0.0, .create ⟨1⟩ 5.0]
    store.setBases [(⟨1⟩, 1.0), (.maxHp, 3.0), (⟨1⟩, 6.0)] =
      store.setBases [(.maxHp, 3.0), (⟨1⟩, 6.0)] ∧
    ∃ character,
      logIn ⟨1⟩ { registry := .sample } none (.ofBytes [0, 0, 0, 7, 0, 0, 0, 0, 0, 0, 0, 2,
        0, 1, 0, 0, 6, 0, 0, 14, 255, 255, 255, 0, 0, 1, 0, 2, 0, 3, 0, 1, 0, 5, 0, 0, 0, 2, 0, 0]) =
          .ok (.ok character, ⟨40, []⟩) ∧
      logIn ⟨1⟩ { registry := .sample } none (.ofBytes [0, 0, 0, 7, 0, 0, 0, 0, 0, 0, 0, 2,
        0, 14, 255, 255, 255, 0, 0, 1, 0, 0, 6, 0, 0, 1, 0, 2, 0, 3, 0, 1, 0, 5, 0, 0, 0, 2, 0, 0]) =
          .ok (.ok character, ⟨40, []⟩) := by
  have hadmissible : pairedMessage.Admissible { registry := .sample } :=
    { attributePoints := by decide
      correctionPoints := by decide
      attributes := ⟨by decide, List.forall_mem_cons.2 ⟨⟨by decide, by decide +kernel⟩,
        List.forall_mem_singleton.2 ⟨by decide, by decide +kernel⟩⟩⟩
      map := by decide
      kills := ⟨by decide, List.forall_mem_singleton.2 (by decide)⟩
      abilities := ⟨by decide, List.forall_mem_nil _⟩
      name := by decide }
  obtain ⟨hstores, hlogins⟩ := order_of_bases_irrelevant AttributeRegistry.sample_accepted
  refine ⟨(hstores _ (AttributeStore.registry_performAll _) _).2 _ fun id => ?_, ?_⟩
  · simp only [latest_cons, latest_nil, Option.none_or]
    by_cases hstrength : id = ⟨1⟩
    · simp [hstrength]
    · simp [hstrength]
  · exact hlogins { registry := .sample } pairedMessage [(14, -256), (1, 1536)] rfl hadmissible
      (by decide) (.swap ..) ⟨1⟩ none _ _ _ _ ⟨by decide, by decide⟩ ⟨by decide, by decide⟩

end Character

end CharacterSim
