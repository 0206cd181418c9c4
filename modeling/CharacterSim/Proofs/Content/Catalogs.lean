import CharacterSim.Content.Abilities
import CharacterSim.Content.Attributes
import CharacterSim.Proofs.Attribute.Acceptance
import CharacterSim.Proofs.Numeric.Canonical

/-! Catalogs made of the entries of a document. Which entries are accepted is said of the entries
alone; what is made of those that are is one definition for each, with what the entry gives and
nothing else. The attribute catalog refuses a repeated id by itself. The ability catalog would let a
later definition replace an earlier one, so that nothing is lost there rests on the scan before. -/

namespace CharacterSim

/-- A catalog holds one definition for each entry, under the id of the entry and as the entry defines
it, and no other. -/
structure HoldsEach {Entry Id Info : Type} (get? : Id → Option Info) (size : Nat)
    (idOf : Entry → Id) (Defines : Entry → Info → Prop) (entries : List Entry) : Prop where
  size_eq : size = entries.length
  defined : ∀ entry ∈ entries, ∃ info, get? (idOf entry) = some info ∧ Defines entry info
  listed : ∀ id info, get? id = some info →
    ∃ entry ∈ entries, idOf entry = id ∧ Defines entry info

section OfEntries

variable {Entry Raw Id Info : Type} {entries : List Entry} {infoOf : Entry → Info}
  {keyOf : Info → Id}

theorem nodup_keys_iff {wrap : Raw → Id} {idOf : Entry → Raw} (hwrap : wrap.Injective)
    (hkey : ∀ entry, keyOf (infoOf entry) = wrap (idOf entry)) :
    ((entries.map infoOf).map keyOf).Nodup ↔ (entries.map idOf).Nodup := by
  have hkeys : (entries.map infoOf).map keyOf = (entries.map idOf).map wrap := by
    rw [List.map_map, List.map_map]
    exact List.map_congr_left fun entry _ => hkey entry
  rw [hkeys, List.nodup_map_iff hwrap]

/-- A table of what distinct entries define, each under its id, holds them. -/
theorem holdsEach_ofList [Ranked Id] {Defines : Entry → Info → Prop}
    (hdistinct : ((entries.map infoOf).map keyOf).Nodup)
    (hdefines : ∀ entry, Defines entry (infoOf entry)) :
    let table := SortedMap.ofList ((entries.map infoOf).map fun info => (keyOf info, info))
    HoldsEach table.get? table.size (fun entry => keyOf (infoOf entry)) Defines entries := by
  refine ⟨?_, fun entry hmem => ⟨infoOf entry, ?_, hdefines entry⟩, fun id info hget => ?_⟩
  · rw [SortedMap.size_ofList_keyed hdistinct, List.length_map]
  · rw [SortedMap.get?_ofList_keyed_eq_some_iff hdistinct]
    exact ⟨List.mem_map_of_mem hmem, rfl⟩
  · rw [SortedMap.get?_ofList_keyed_eq_some_iff hdistinct] at hget
    obtain ⟨hmem, rfl⟩ := hget
    obtain ⟨entry, hentry, rfl⟩ := List.mem_map.1 hmem
    exact ⟨entry, hentry, rfl, hdefines entry⟩

end OfEntries

/-! ### Attributes -/

deriving instance DecidableEq for AttributeEntry

theorem AttributeId.mk_injective : Function.Injective AttributeId.mk :=
  fun _ _ => AttributeId.mk.inj

namespace AttributeEntry

variable {entry : AttributeEntry} {entries : List AttributeEntry}

def lower (entry : AttributeEntry) : Float := entry.min.getD Amount.lowest

def upper (entry : AttributeEntry) : Float := entry.max.getD Amount.highest

def sources (entry : AttributeEntry) : List UInt16 := entry.derivedFrom.map (·.1)

/-- One attribute derives from another by a term of the listed entries. -/
def Derives (entries : List AttributeEntry) (id source : UInt16) : Prop :=
  ∃ entry ∈ entries, entry.id = id ∧ source ∈ entry.sources

/-- What has to hold of entries that are accepted. -/
structure Sound (entries : List AttributeEntry) : Prop where
  distinct : (entries.map (·.id)).Nodup
  bounds : ∀ entry ∈ entries, entry.lower ≤ entry.upper ∧
    entry.lower.isNaN = false ∧ entry.upper.isNaN = false
  sources : ∀ entry ∈ entries, ∀ source ∈ entry.sources, ∃ other ∈ entries, other.id = source
  acyclic : ∀ id, ¬ Relation.TransGen (Derives entries) id id

/-- A bound that is not given excludes nothing finite, and is finite itself. -/
structure FarthestWhereAbsent (entry : AttributeEntry) : Prop where
  lower_of_none : entry.min = none → entry.lower.isFinite = true ∧
    ∀ amount : Float, amount.isFinite = true → entry.lower ≤ amount
  upper_of_none : entry.max = none → entry.upper.isFinite = true ∧
    ∀ amount : Float, amount.isFinite = true → amount ≤ entry.upper

theorem farthestWhereAbsent (entry : AttributeEntry) : entry.FarthestWhereAbsent where
  lower_of_none hnone := by
    rw [lower, hnone]
    exact ⟨rfl, fun _ hfinite => (Amount.between_extremes hfinite).1⟩
  upper_of_none hnone := by
    rw [upper, hnone]
    exact ⟨rfl, fun _ hfinite => (Amount.between_extremes hfinite).2⟩

/-- A definition has what an entry gives: its terms in the order of the file, or its own base where it
gives none. -/
structure Defines (entry : AttributeEntry) (info : AttributeInfo) : Prop where
  id_eq : info.id = ⟨entry.id⟩
  name_eq : info.name = entry.name
  scopes_eq : info.scopes = entry.scopes
  modifiable_eq : info.modifiable = entry.modifiable
  min_eq : info.bounds.min = entry.lower
  max_eq : info.bounds.max = entry.upper
  defaultBase_eq : info.defaultBase = entry.defaultBase
  base_of_nil : entry.derivedFrom = [] → info.derivation = .base
  linear_of_ne_nil : entry.derivedFrom ≠ [] → ∃ terms, info.derivation = .linear terms ∧
    terms.map (fun term => (term.source.val, term.weight)) = entry.derivedFrom

theorem defines_info (entry : AttributeEntry) : entry.Defines entry.info where
  id_eq := rfl
  name_eq := rfl
  scopes_eq := rfl
  modifiable_eq := rfl
  min_eq := rfl
  max_eq := rfl
  defaultBase_eq := rfl
  base_of_nil hnil := if_pos (List.isEmpty_iff.2 hnil)
  linear_of_ne_nil hterms := by
    refine ⟨_, if_neg (mt List.isEmpty_iff.1 hterms), ?_⟩
    rw [List.map_map]
    exact List.map_id _

/-! What has to hold of definitions is what has to hold of the entries that they are made of. -/

theorem sources_info : entry.info.sources = entry.sources.map AttributeId.mk := by
  show (derivation entry.derivedFrom).sources = (entry.derivedFrom.map (·.1)).map AttributeId.mk
  cases entry.derivedFrom with
  | nil => rfl
  | cons term rest => simp [derivation, Derivation.sources, Derivation.terms]

theorem derivesFrom_info_iff {source : UInt16} :
    entry.info.DerivesFrom ⟨source⟩ ↔ source ∈ entry.sources := by
  rw [← AttributeInfo.mem_sources_iff, sources_info,
    List.mem_map_of_injective AttributeId.mk_injective]

theorem nodup_ids_info_iff :
    ((entries.map info).map (·.id)).Nodup ↔ (entries.map (·.id)).Nodup :=
  nodup_keys_iff AttributeId.mk_injective fun _ => rfl

theorem derivesDirectly_map_info {id source : UInt16} :
    DerivesDirectly (entries.map info) ⟨id⟩ ⟨source⟩ ↔ Derives entries id source := by
  constructor
  · rintro ⟨made, hmade, hid, hsource⟩
    obtain ⟨entry, hmem, rfl⟩ := List.mem_map.1 hmade
    exact ⟨entry, hmem, AttributeId.mk_injective hid, derivesFrom_info_iff.1 hsource⟩
  · rintro ⟨entry, hmem, rfl, hsource⟩
    exact ⟨entry.info, List.mem_map_of_mem hmem, rfl, derivesFrom_info_iff.2 hsource⟩

theorem wellFormed_map_info_iff :
    AttributeRegistry.WellFormed (entries.map info) ↔ Sound entries := by
  constructor
  · intro h
    refine ⟨nodup_ids_info_iff.1 h.distinct, fun entry hmem => ?_,
      fun entry hmem source hsource => ?_, fun id hcycle => ?_⟩
    · have hordered := h.bounds entry.info (List.mem_map_of_mem hmem)
      rw [entry.defines_info.min_eq, entry.defines_info.max_eq] at hordered
      exact ⟨hordered, Amount.isNaN_of_le hordered⟩
    · obtain ⟨made, hmade, hid⟩ :=
        h.sources _ (List.mem_map_of_mem hmem) ⟨source⟩ (derivesFrom_info_iff.2 hsource)
      obtain ⟨other, hother, rfl⟩ := List.mem_map.1 hmade
      exact ⟨other, hother, AttributeId.mk_injective hid⟩
    · exact h.acyclic ⟨id⟩ (hcycle.lift AttributeId.mk fun _ _ => derivesDirectly_map_info.2)
  · intro h
    refine ⟨List.forall_mem_map.2 fun entry hmem => ?_, nodup_ids_info_iff.2 h.distinct,
      List.forall_mem_map.2 fun entry hmem source hsource => ?_, fun id hcycle => ?_⟩
    · rw [entry.defines_info.min_eq, entry.defines_info.max_eq]
      exact (h.bounds entry hmem).1
    · obtain ⟨other, hother, hid⟩ := h.sources entry hmem source.val (derivesFrom_info_iff.1 hsource)
      exact ⟨other.info, List.mem_map_of_mem hother, congrArg AttributeId.mk hid⟩
    · exact h.acyclic id.val (hcycle.lift AttributeId.val fun _ _ => derivesDirectly_map_info.1)

end AttributeEntry

namespace AttributeRegistry

variable {entries : List AttributeEntry} {registry : AttributeRegistry}

theorem ofEntries_eq_ok_iff :
    ofEntries entries = .ok registry ↔ ofList (entries.map AttributeEntry.info) = .ok registry := by
  rw [ofEntries]
  cases ofList (entries.map AttributeEntry.info) <;> simp [Except.mapError]

theorem ofReader_of_read {read : String → Option (List AttributeEntry)} {text : String}
    (h : read text = some entries) : ofReader read text = ofEntries entries := by
  rw [ofReader, h]

/-- Entries are accepted exactly when they are sound. -/
theorem exists_ofEntries_iff :
    (∃ registry, ofEntries entries = .ok registry) ↔ AttributeEntry.Sound entries := by
  simp only [ofEntries_eq_ok_iff, ← AttributeEntry.wellFormed_map_info_iff]
  exact ⟨fun ⟨_, h⟩ => wellFormed_of_ofList h, exists_ofList_of_wellFormed⟩

theorem holdsEach_of_ofEntries (h : ofEntries entries = .ok registry) :
    HoldsEach registry.get? registry.size (fun entry => ⟨entry.id⟩) AttributeEntry.Defines
      entries := by
  have hlist := ofEntries_eq_ok_iff.1 h
  have hheld := holdsEach_ofList (wellFormed_of_ofList hlist).distinct AttributeEntry.defines_info
  rw [← AttributeTable.ofInfos, ← table_of_ofList hlist] at hheld
  exact hheld

end AttributeRegistry

/-! ### Abilities -/

deriving instance DecidableEq for AbilityEntry

namespace AbilityEntry

variable {entries : List AbilityEntry}

/-- A definition has what an entry gives, its recharge in full: the whole seconds fit into 64 bits. -/
structure Defines (entry : AbilityEntry) (info : AbilityInfo) : Prop where
  id_eq : info.id = ⟨entry.id⟩
  name_eq : info.name = entry.name
  recharge_eq : info.recharge.nanoseconds = entry.rechargeMillis.toNat * 1000000
  recharge_fits : info.recharge.seconds < 2 ^ 64

theorem defines_info (entry : AbilityEntry) : entry.Defines entry.info where
  id_eq := rfl
  name_eq := rfl
  recharge_eq := rfl
  recharge_fits := by
    have hmillis : entry.rechargeMillis.toNat < 2 ^ 64 := entry.rechargeMillis.toNat_lt
    show entry.rechargeMillis.toNat * 1000000 / 1000000000 < 2 ^ 64
    omega

theorem nodup_ids_info_iff :
    ((entries.map info).map (·.id)).Nodup ↔ (entries.map (·.id)).Nodup :=
  nodup_keys_iff (fun _ _ => AbilityId.mk.inj) fun _ => rfl

/-- The scan finds nothing exactly when no id is repeated and none was seen before. -/
theorem repeated?_eq_none_iff {seen : List UInt8} : repeated? seen entries = none ↔
    (entries.map (·.id)).Nodup ∧ ∀ entry ∈ entries, entry.id ∉ seen := by
  induction entries generalizing seen with
  | nil => simp [repeated?]
  | cons entry rest ih =>
    rw [repeated?, List.map_cons, List.nodup_cons, List.forall_mem_cons]
    split
    · next hseen => exact iff_of_false nofun fun h => h.2.1 (List.contains_iff_mem.1 hseen)
    · next hseen =>
      have hnew : entry.id ∉ seen := mt List.contains_iff_mem.2 hseen
      rw [ih]
      constructor
      · rintro ⟨hdistinct, hothers⟩
        refine ⟨⟨fun hmem => ?_, hdistinct⟩, hnew, fun other hother => ?_⟩
        · obtain ⟨other, hother, heq⟩ := List.mem_map.1 hmem
          exact hothers other hother (heq ▸ List.mem_cons_self)
        · exact fun hmem => hothers other hother (List.mem_cons_of_mem _ hmem)
      · rintro ⟨⟨hunlisted, hdistinct⟩, -, hothers⟩
        refine ⟨hdistinct, fun other hother hmem => ?_⟩
        rcases List.mem_cons.1 hmem with heq | hmem
        · exact hunlisted (heq ▸ List.mem_map_of_mem hother)
        · exact hothers other hother hmem

end AbilityEntry

namespace AbilityCatalog

variable {entries : List AbilityEntry} {catalog : AbilityCatalog} {cooldownMillis : Nat}

theorem ofEntries_eq_ok_iff : ofEntries cooldownMillis entries = .ok catalog ↔
    (entries.map (·.id)).Nodup ∧
      ofList (entries.map AbilityEntry.info) (.ofMillis cooldownMillis) = catalog := by
  have hscan : AbilityEntry.repeated? [] entries = none ↔ (entries.map (·.id)).Nodup := by
    rw [AbilityEntry.repeated?_eq_none_iff]
    exact and_iff_left fun _ _ => List.not_mem_nil
  rw [ofEntries, ← hscan]
  cases AbilityEntry.repeated? [] entries <;> simp

theorem ofReader_of_read {read : String → Option (Nat × List AbilityEntry)} {text : String}
    (h : read text = some (cooldownMillis, entries)) :
    ofReader read text = ofEntries cooldownMillis entries := by
  rw [ofReader, h]

theorem exists_ofEntries_iff : (∃ catalog, ofEntries cooldownMillis entries = .ok catalog) ↔
    (entries.map (·.id)).Nodup := by
  simp only [ofEntries_eq_ok_iff, exists_and_left, exists_eq', and_true]

theorem holdsEach_of_ofEntries (h : ofEntries cooldownMillis entries = .ok catalog) :
    HoldsEach catalog.get? catalog.size (fun entry => ⟨entry.id⟩) AbilityEntry.Defines entries ∧
      catalog.globalCooldown = .ofMillis cooldownMillis := by
  obtain ⟨hdistinct, rfl⟩ := ofEntries_eq_ok_iff.1 h
  have hkeys := AbilityEntry.nodup_ids_info_iff.2 hdistinct
  exact ⟨holdsEach_ofList hkeys AbilityEntry.defines_info, rfl⟩

end AbilityCatalog

/-- Loading catalogs loses and invents nothing, whatever reads a text and whatever the entries that it is
read as. Attributes are accepted exactly when their ids are distinct, their bounds ordered and numbers,
their sources listed and their derivations without cycles; abilities exactly when their ids are
distinct. An accepted catalog holds one definition for each entry, with what the entry gives, and no
other. -/
theorem catalogs_hold_entries (attributes : List AttributeEntry) (cooldownMillis : Nat)
    (abilities : List AbilityEntry) :
    ((∀ read text, read text = some attributes →
        AttributeRegistry.ofReader read text = AttributeRegistry.ofEntries attributes) ∧
      (∀ text, AttributeEntry.ofText? text = some attributes →
        AttributeRegistry.ofRon text = AttributeRegistry.ofEntries attributes) ∧
      (∀ entry ∈ attributes, entry.FarthestWhereAbsent) ∧
      ((∃ registry, AttributeRegistry.ofEntries attributes = .ok registry) ↔
        AttributeEntry.Sound attributes) ∧
      ∀ registry, AttributeRegistry.ofEntries attributes = .ok registry →
        HoldsEach registry.get? registry.size (fun entry => ⟨entry.id⟩) AttributeEntry.Defines
          attributes) ∧
    ((∀ read text, read text = some (cooldownMillis, abilities) →
        AbilityCatalog.ofReader read text = AbilityCatalog.ofEntries cooldownMillis abilities) ∧
      (∀ text, AbilityEntry.ofText? text = some (cooldownMillis, abilities) →
        AbilityCatalog.ofRon text = AbilityCatalog.ofEntries cooldownMillis abilities) ∧
      ((∃ catalog, AbilityCatalog.ofEntries cooldownMillis abilities = .ok catalog) ↔
        (abilities.map (·.id)).Nodup) ∧
      ∀ catalog, AbilityCatalog.ofEntries cooldownMillis abilities = .ok catalog →
        HoldsEach catalog.get? catalog.size (fun entry => ⟨entry.id⟩) AbilityEntry.Defines
            abilities ∧
          catalog.globalCooldown = .ofMillis cooldownMillis) := by
  refine ⟨⟨?_, ?_, ?_, ?_, ?_⟩, ?_, ?_, ?_, ?_⟩
  · exact fun _ _ => AttributeRegistry.ofReader_of_read
  · exact fun _ => AttributeRegistry.ofReader_of_read
  · exact fun entry _ => entry.farthestWhereAbsent
  · exact AttributeRegistry.exists_ofEntries_iff
  · exact fun _ => AttributeRegistry.holdsEach_of_ofEntries
  · exact fun _ _ => AbilityCatalog.ofReader_of_read
  · exact fun _ => AbilityCatalog.ofReader_of_read
  · exact AbilityCatalog.exists_ofEntries_iff
  · exact fun _ => AbilityCatalog.holdsEach_of_ofEntries

/-- Full vitality is listed before the strength that it derives from; healing recharges for as long as
can be written down. -/
theorem catalogs_hold_entries_of_texts :
    let attributesText := "(attributes: [
      (id: 14, name: \"max_hp\", scopes: \"BEING\", derived_from: [(1, 2.0)]),
      (id: 1, name: \"strength\", scopes: \"CHARACTER\", min: Some(0.0))])"
    let abilitiesText := "(abilities: [(id: 7, name: \"heal\", recharge_ms: 18446744073709551615)])"
    (∃ registry strength, AttributeRegistry.ofRon attributesText = .ok registry ∧
      registry.size = 2 ∧ registry.get? ⟨1⟩ = some strength ∧ strength.bounds.min = 0.0) ∧
    ∃ catalog heal, AbilityCatalog.ofRon abilitiesText = .ok catalog ∧ catalog.size = 1 ∧
      catalog.get? ⟨7⟩ = some heal ∧ heal.recharge.nanoseconds = 18446744073709551615000000 := by
  intro attributesText abilitiesText
  let strength : AttributeEntry :=
    { id := 1, name := "strength", scopes := .character, min := some 0.0 }
  let attributes : List AttributeEntry :=
    [{ id := 14, name := "max_hp", scopes := .being, derivedFrom := [(1, 2.0)] }, strength]
  let heal : AbilityEntry := { id := 7, name := "heal", rechargeMillis := 18446744073709551615 }
  obtain ⟨⟨-, hattributes, -, -, hregistry⟩, -, habilities, hcatalog, hheld⟩ :=
    catalogs_hold_entries attributes 1000 [heal]
  have hattributesRead : AttributeEntry.ofText? attributesText = some attributes := by
    decide +kernel
  have habilitiesRead : AbilityEntry.ofText? abilitiesText = some (1000, [heal]) := by
    decide +kernel
  have hok : (AttributeRegistry.ofEntries attributes).isOk = true := by decide +kernel
  constructor
  · cases hlist : AttributeRegistry.ofEntries attributes with
    | error refusal =>
      rw [hlist] at hok
      cases hok
    | ok registry =>
      have hholds := hregistry registry hlist
      obtain ⟨info, hget, hdefines⟩ := hholds.defined strength (by simp [attributes])
      exact ⟨registry, info, (hattributes _ hattributesRead).trans hlist, hholds.size_eq, hget,
        hdefines.min_eq⟩
  · obtain ⟨catalog, hlist⟩ := hcatalog.2 (by decide)
    obtain ⟨hholds, -⟩ := hheld catalog hlist
    obtain ⟨info, hget, hdefines⟩ := hholds.defined heal (List.mem_singleton_self heal)
    exact ⟨catalog, info, (habilities _ habilitiesRead).trans hlist, hholds.size_eq, hget,
      hdefines.recharge_eq.trans (by decide +kernel)⟩

end CharacterSim
