import ASync.Common.Base32
import ASync.Core.Helpers.Beans
import ASync.Core.Helpers.Sample
import ASync.Core.Model.KeystoreLoader
/-!
# Whether the configured device id is the certificate's

A handler that a loader returns is of the configuration's keystore. The
device id is set with a keystore that is generated and with no other: so
the configuration has the certificate's exactly where the call generates
one, or it was there before (`identity_matches_iff`).
-/

namespace ASync

namespace Core

open Effect

section Identity

variable [Guava] [KeyStores]
variable {s s' : Keystores} {es : List KeystoreEvent} {e : KeystoreEvent} {i : ℕ}
variable {key : Option GeneratedKey} {generated : GeneratedKey}
  {configuration : ConfigurationService}
variable {keystoreData : Bytes} {keystoreAlgo id : String} {keyStore : KeyStore}
  {table : Table String KeystoreHandler.Cached}
variable {t t' : KeystoreHandler.Loading} {handler : KeystoreHandler}

namespace KeystoreHandler

open Loader

/-- The device id of the first certificate. -/
def certificateDeviceId (handler : KeystoreHandler) : Option String :=
  match handler.keyStore.certificates with
  | .x509 derData :: _ => (derDataToDeviceIdString derData).toOption
  | _ => none

/-- The handler is of the configuration's keystore, and the configuration's
device id that of its certificate. -/
def Matches (handler : KeystoreHandler) (configuration : ConfigurationService) : Prop :=
  (∃ id, handler.certificateDeviceId = some id ∧ configuration.deviceId = some id) ∧
    ∃ keystoreData keystoreAlgo, configuration.keystore = some keystoreData ∧
      KeyStores.load keystoreAlgo keystoreData = some handler.keyStore

/-- The device id is that of the certificate, where a keystore is cached or
can be imported. -/
def IdKnown (t : Loading) : Prop :=
  match cachedFor t with
  | some cached => t.configuration.deviceId = cached.handler.certificateDeviceId
  | none => ∀ keystoreData ∈ t.configuration.keystore, ∀ keyStore id,
      importKeystore keystoreData (algoOf t.configuration) = .ok (keyStore, id) →
        t.configuration.deviceId = some id

/-- What is cached is of a keystore that has a certificate. -/
def Sound (table : Table String Cached) : Prop :=
  ∀ hash cached, table.find hash = some cached →
    (∃ keystoreAlgo, KeyStores.load keystoreAlgo cached.keystoreData =
      some cached.handler.keyStore) ∧
      ∃ id, cached.handler.certificateDeviceId = some id

/-- No two keystores are taken for one. -/
def NoCollision (t : Loading) : Prop :=
  ∀ cached, cachedFor t = some cached → t.configuration.keystore = some cached.keystoreData

/-! ## The parts of a call -/

/-- A keystore that is imported was loaded, and has a certificate. -/
theorem importKeystore_eq_ok (h : importKeystore keystoreData keystoreAlgo = .ok (keyStore, id)) :
    KeyStores.load keystoreAlgo keystoreData = some keyStore ∧
      (⟨keyStore⟩ : KeystoreHandler).certificateDeviceId = some id := by
  unfold importKeystore at h
  obtain ⟨-, -, h⟩ := except_bind_eq_ok h
  split at h
  · cases h
  · next keyStore' hload =>
    split at h
    · cases h
    · cases h
    · next derData rest hcertificates =>
      obtain ⟨id', hid, h⟩ := except_bind_eq_ok h
      obtain ⟨rfl, rfl⟩ := Prod.mk.inj (Except.ok.inj h)
      refine ⟨hload, ?_⟩
      unfold certificateDeviceId
      simp only [hcertificates, hid]
      rfl

/-- A keystore that is generated has a certificate. -/
theorem generateKeystore_eq_ok (h : generateKeystore key keystoreAlgo = .ok (generated, id)) :
    key = some generated ∧ (⟨generated.keyStore⟩ : KeystoreHandler).certificateDeviceId =
      some id := by
  unfold generateKeystore at h
  split at h
  · cases h
  · next generated' =>
    obtain ⟨id', hid, h⟩ := except_bind_eq_ok h
    obtain ⟨-, -, h⟩ := except_bind_eq_ok h
    obtain ⟨rfl, rfl⟩ := Prod.mk.inj (Except.ok.inj h)
    refine ⟨rfl, ?_⟩
    unfold certificateDeviceId GeneratedKey.keyStore
    simp only [hid]
    rfl

/-! ## A call -/

/-- Setting the type leaves the device id. -/
theorem withAlgo_deviceId : (withAlgo configuration).deviceId = configuration.deviceId := by
  unfold withAlgo
  split
  · rfl
  · rfl

/-- Setting the type leaves the keystore. -/
theorem withAlgo_keystore : (withAlgo configuration).keystore = configuration.keystore := by
  unfold withAlgo
  split
  · rfl
  · rfl

/-- What a call that generates a keystore leaves. -/
theorem run_generate_cases (key : Option GeneratedKey) (keystoreAlgo : String) (t : Loading) :
    (∃ generated id keystoreData, generateKeystore key keystoreAlgo = .ok (generated, id) ∧
      generated.exported = some keystoreData ∧
      (generate key keystoreAlgo).run t = .ok ⟨generated.keyStore⟩ ⟨
        { t.configuration with
          deviceId := some id
          keystore := some keystoreData
          keystoreAlgo := some keystoreAlgo },
        t.keystoreHandlersCacheByHash.merge (hashOf keystoreData) ⟨keystoreData,
          ⟨generated.keyStore⟩⟩⟩) ∨
    ∃ ex t', (generate key keystoreAlgo).run t = .error ex t' ∧
      t'.keystoreHandlersCacheByHash = t.keystoreHandlersCacheByHash := by
  rcases hgenerate : generateKeystore key keystoreAlgo with ex | ⟨generated, id⟩
  · refine Or.inr ⟨.nullPointer "unable to aquire keystore", t, ?_, rfl⟩
    unfold generate
    rw [hgenerate]
    rfl
  · have hrun : (generate key keystoreAlgo).run t =
        (storeGenerated generated id keystoreAlgo).run t := by
      unfold generate
      rw [hgenerate]
    rcases hexported : generated.exported with _ | keystoreData
    · refine Or.inr ⟨.runtime "KeyStoreException",
        { t with configuration := { t.configuration with deviceId := some id } }, ?_, rfl⟩
      rw [hrun, storeGenerated, hexported]
      rfl
    · refine Or.inl ⟨generated, id, keystoreData, rfl, hexported, ?_⟩
      rw [hrun, storeGenerated, hexported]
      rfl

/-- A call that finds a handler in the cache changes nothing. -/
theorem run_loadAndStore_of_some {cached : Cached} (hcached : cachedFor t = some cached) :
    (loadAndStore key).run t = .ok cached.handler t := by
  unfold loadAndStore
  rw [run_get_bind]
  simp only [hcached]
  rfl

/-- A call that finds nothing in the cache goes on with the type set. -/
theorem run_loadAndStore_of_none (hcached : cachedFor t = none) : (loadAndStore key).run t =
    (match t.configuration.keystore with
    | none => generate key (algoOf t.configuration)
    | some keystoreData =>
      match importKeystore keystoreData (algoOf t.configuration) with
      | .ok (keyStore, _) => cache keystoreData ⟨keyStore⟩
      | .error _ => generate key (algoOf t.configuration)).run
        { t with configuration := withAlgo t.configuration } := by
  unfold loadAndStore
  rw [run_get_bind]
  simp only [hcached]
  rfl

/-- **The ways a call ends**: with the handler cached, one of the keystore
imported, one of a keystore generated, or an exception, with which nothing
is cached. -/
inductive Ends (key : Option GeneratedKey) (t : Loading) :
    EStateM.Result JavaException Loading KeystoreHandler → Prop
  | cached {cached : Cached} : cachedFor t = some cached → Ends key t (.ok cached.handler t)
  | imported {keystoreData : Bytes} {keyStore : KeyStore} {id : String} : cachedFor t = none →
      t.configuration.keystore = some keystoreData →
      importKeystore keystoreData (algoOf t.configuration) = .ok (keyStore, id) →
      Ends key t (.ok ⟨keyStore⟩ ⟨withAlgo t.configuration,
        t.keystoreHandlersCacheByHash.merge (hashOf keystoreData) ⟨keystoreData, ⟨keyStore⟩⟩⟩)
  | generated {generated : GeneratedKey} {id : String} {keystoreData : Bytes}
    {configuration : ConfigurationService} :
      cachedFor t = none →
      (∀ data ∈ t.configuration.keystore, ∀ keyStore id',
        importKeystore data (algoOf t.configuration) ≠ .ok (keyStore, id')) →
      generateKeystore key (algoOf t.configuration) = .ok (generated, id) →
      generated.exported = some keystoreData →
      configuration.deviceId = some id → configuration.keystore = some keystoreData →
      Ends key t (.ok ⟨generated.keyStore⟩ ⟨configuration,
        t.keystoreHandlersCacheByHash.merge (hashOf keystoreData) ⟨keystoreData,
          ⟨generated.keyStore⟩⟩⟩)
  | failed {ex : JavaException} {t' : Loading} :
      t'.keystoreHandlersCacheByHash = t.keystoreHandlersCacheByHash → Ends key t (.error ex t')

/-- Every call ends in one of these ways. -/
theorem ends_loadAndStore (key : Option GeneratedKey) (t : Loading) :
    Ends key t ((loadAndStore key).run t) := by
  rcases hcached : cachedFor t with _ | cached
  · have hgenerate : (∀ data ∈ t.configuration.keystore, ∀ keyStore id',
          importKeystore data (algoOf t.configuration) ≠ .ok (keyStore, id')) →
        Ends key t ((generate key (algoOf t.configuration)).run
          { t with configuration := withAlgo t.configuration }) := by
      intro hnot
      rcases run_generate_cases key (algoOf t.configuration) { t
        with configuration := withAlgo t.configuration }
        with ⟨generated, id, keystoreData, hgenerated, hexported, hrun⟩ | ⟨ex, t', hrun, hcache⟩
      · rw [hrun]
        exact .generated hcached hnot hgenerated hexported rfl rfl
      · rw [hrun]
        exact .failed hcache
    rw [run_loadAndStore_of_none hcached]
    rcases hkeystore : t.configuration.keystore with _ | keystoreData
    · refine hgenerate fun data hdata => ?_
      rw [hkeystore] at hdata
      cases hdata
    · rcases himport : importKeystore keystoreData (algoOf t.configuration) with ex | ⟨keyStore, id⟩
      · simp only [himport]
        refine hgenerate fun data hdata keyStore id' hok => ?_
        obtain rfl := Option.some.inj (hkeystore.symm.trans hdata)
        rw [himport] at hok
        cases hok
      · simp only [himport]
        exact .imported hcached hkeystore himport
  · rw [run_loadAndStore_of_some hcached]
    exact .cached hcached

/-! ## What is cached -/

/-- A handler that was loaded may be cached. -/
theorem Sound.merge (h : Sound table) (hash : String)
    (hload : KeyStores.load keystoreAlgo keystoreData = some handler.keyStore)
    (hid : handler.certificateDeviceId = some id) :
      Sound (table.merge hash ⟨keystoreData, handler⟩) := by
  intro hash' cached hfind
  rw [Table.find_merge] at hfind
  split at hfind
  · obtain rfl := Option.some.inj hfind
    exact ⟨⟨keystoreAlgo, hload⟩, id, hid⟩
  · exact h hash' cached hfind

/-- The keystore of a key that was generated is what is exported of it. -/
theorem load_of_generated (htrips : GeneratedKey.RoundTrips key keystoreAlgo)
    (hgenerated : generateKeystore key keystoreAlgo = .ok (generated, id))
    (hexported : generated.exported = some keystoreData) :
    KeyStores.load keystoreAlgo keystoreData = some generated.keyStore :=
  htrips generated (generateKeystore_eq_ok hgenerated).1 keystoreData hexported

/-- A call leaves the cache sound. -/
theorem Sound.loadAndStore (h : Sound t.keystoreHandlersCacheByHash)
    (htrips : GeneratedKey.RoundTrips key (algoOf t.configuration)) :
    Sound (after (loadAndStore key) t).keystoreHandlersCacheByHash := by
  have hends := ends_loadAndStore key t
  unfold after
  rcases hrun : (Loader.loadAndStore key).run t with ⟨handler, t'⟩ | ⟨ex, t'⟩
  · rw [hrun] at hends
    cases hends with
    | cached hcached => exact h
    | imported hcached hkeystore himport =>
      obtain ⟨hload, hid⟩ := importKeystore_eq_ok himport
      exact h.merge _ hload hid
    | generated hcached hnot hgenerated hexported hdeviceId hkeystore =>
      exact h.merge _ (load_of_generated htrips hgenerated hexported)
        (generateKeystore_eq_ok hgenerated).2
  · rw [hrun] at hends
    cases hends with
    | failed hcache =>
      change Sound t'.keystoreHandlersCacheByHash
      rw [hcache]
      exact h

/-- **What is cached was loaded**, in every run. -/
theorem sound_of_reaches (h : keystoreLoading.Reaches es s) :
    Sound s.keystoreHandlersCacheByHash := by
  refine h.invariant (I := fun _ s => Sound s.keystoreHandlersCacheByHash) ?_
    fun _ s e s' _ hI _ hstep => ?_
  · rintro s hstart hash cached hfind
    rw [hstart, Table.find_empty] at hfind
    cases hfind
  · rcases e with ⟨i, key⟩ | ⟨i, edited⟩ | hash
    · obtain ⟨configuration, -, htrips, t, rfl, rfl⟩ := hstep
      have hI' : Sound (Loading.keystoreHandlersCacheByHash ⟨configuration,
          s.keystoreHandlersCacheByHash⟩) := hI
      exact hI'.loadAndStore htrips
    · rw [hstep]
      exact hI
    · rw [hstep]
      intro hash' cached hfind
      by_cases hhash : hash' = hash
      · rw [hhash, Table.find_delete_self] at hfind
        cases hfind
      · rw [Table.find_delete_of_ne hhash] at hfind
        exact hI hash' cached hfind

end KeystoreHandler

open KeystoreHandler in
/-- **The configured device id is the certificate's** after a call exactly
where the call generates a keystore, or it was so before. The keystore of
the configuration is the handler's in any case. -/
theorem identity_matches_iff (h : keystoreLoading.Reaches es s)
    (htrips : GeneratedKey.RoundTrips key (Loader.algoOf configuration))
    (hcollision : NoCollision ⟨configuration, s.keystoreHandlersCacheByHash⟩)
    (hcall : (Loader.loadAndStore key).run ⟨configuration, s.keystoreHandlersCacheByHash⟩ =
      .ok handler t') :
    handler.Matches t'.configuration ↔ IdKnown ⟨configuration, s.keystoreHandlersCacheByHash⟩ := by
  have hsound := sound_of_reaches h
  have hends := ends_loadAndStore key ⟨configuration, s.keystoreHandlersCacheByHash⟩
  rw [hcall] at hends
  unfold IdKnown
  cases hends with
  | @cached cached hcached =>
    -- a handler of the cache: the configuration is not touched
    obtain ⟨hash, hkeystore, hfind⟩ : ∃ data, configuration.keystore = some data ∧
        s.keystoreHandlersCacheByHash.find (hashOf data) = some cached :=
          Option.bind_eq_some_iff.1 hcached
    obtain ⟨⟨keystoreAlgo, hload⟩, id, hid⟩ := hsound _ cached hfind
    rw [hcached]
    change cached.handler.Matches configuration ↔
      configuration.deviceId = cached.handler.certificateDeviceId
    constructor
    · rintro ⟨⟨id', hid', hdeviceId⟩, -⟩
      rw [hid', hdeviceId]
    · intro hdeviceId
      exact ⟨⟨id, hid, hdeviceId.trans hid⟩, cached.keystoreData, keystoreAlgo,
        hcollision cached hcached, hload⟩
  | @imported keystoreData keyStore id hcached hkeystore himport =>
    -- an import writes the algorithm down, but not the device id
    obtain ⟨hload, hid⟩ := importKeystore_eq_ok himport
    rw [hcached]
    constructor
    · rintro ⟨⟨id', hid', hdeviceId⟩, -⟩ data hdata keyStore' id'' himport'
      obtain rfl := Option.some.inj (hkeystore.symm.trans hdata)
      have hid'' := (importKeystore_eq_ok himport').2
      obtain ⟨rfl, rfl⟩ := Prod.mk.inj (Except.ok.inj (himport.symm.trans himport'))
      rw [withAlgo_deviceId, ← hid', hid''] at hdeviceId
      exact hdeviceId
    · intro hknown
      have hdeviceId := hknown keystoreData hkeystore keyStore id himport
      refine ⟨⟨id, hid, withAlgo_deviceId.trans hdeviceId⟩, keystoreData,
        Loader.algoOf configuration, ?_, hload⟩
      exact withAlgo_keystore.trans hkeystore
  | @generated generated id keystoreData configuration' hcached hnot hgenerated hexported hdeviceId
    hkeystore =>
    rw [hcached]
    -- a generated keystore is exported together with its id
    refine iff_of_true ?_ fun data hdata keyStore id' himport =>
      absurd himport (hnot data hdata keyStore id')
    exact ⟨⟨id, (generateKeystore_eq_ok hgenerated).2, hdeviceId⟩, keystoreData,
      Loader.algoOf configuration,
      hkeystore, load_of_generated htrips hgenerated hexported⟩

end Identity

/-! ## Sample keystores -/

section Sample

namespace Sample

/-- As `guavaOfLetters`, with base32 as it is. -/
@[reducible] def guavaOfLetterIds : Guava where
  sha256 bytes := if bytes = [0x61] then ASync.Sample.digestOfA
    else if bytes = [0x62] then ASync.Sample.digestOfB
    else ASync.Sample.emptyDigest
  base16Encode := ASync.Sample.hexEncode
  base16Decode s := ASync.Sample.hexBytes s.toList
  base32Encode := Base32.encode
  base32Decode := Base32.decode

/-- One keystore, exported as `b`, that holds the certificate `a`. -/
@[reducible] def keyStores : KeyStores where
  isType keystoreAlgo := keystoreAlgo = "JKS"
  getDefaultType := "JKS"
  load _ data := if data = [0x62] then some ⟨[.x509 [0x61]]⟩ else none

attribute [local instance] guavaOfLetterIds keyStores

def generatedKey : GeneratedKey where
  certificateDerData := [0x61]
  exported := some [0x62]

def configurationOf (keystore : Option Bytes) : ConfigurationService where
  deviceName := some "a-sync"
  deviceId := none
  keystore := keystore
  keystoreAlgo := none
  folders := ∅
  peers := ∅
  discoveryServers := []
  cache := "/cache"
  temp := "/temp"
  database := "/database"
  configuration := none
  repositoryH2Config := none

/-- A configuration whose keystore was generated. -/
def generated : KeystoreHandler.Loading :=
  Effect.after (KeystoreHandler.Loader.loadAndStore (some generatedKey)) ⟨configurationOf none, ∅⟩

/-- A process begins with any configurations. -/
theorem reaches_nil (configurations : List ConfigurationService) :
    keystoreLoading.Reaches [] { configurations } := Machine.Run.start rfl

/-- The generated keystore is loaded from what was exported of it. -/
theorem roundTrips (keystoreAlgo : String) :
    GeneratedKey.RoundTrips (some generatedKey) keystoreAlgo := by
  intro generated hgenerated data hdata
  obtain rfl := Option.some.inj hgenerated
  obtain rfl := Option.some.inj hdata
  rfl

/-- Beside it there is one that has the keystore and no device id. -/
theorem reaches_generated : keystoreLoading.Reaches [.loadAndStore 0 (some generatedKey)]
    { configurations := [generated.configuration, configurationOf (some [0x62])]
      keystoreHandlersCacheByHash := generated.keystoreHandlersCacheByHash } :=
  .step (reaches_nil [configurationOf none, configurationOf (some [0x62])]) trivial
    ⟨configurationOf none, rfl, roundTrips _, generated, rfl, rfl⟩

end Sample

attribute [local instance] Sample.guavaOfLetterIds Sample.keyStores
attribute [local irreducible] Sample.generated

open KeystoreHandler Loader

/-- The keystore is the configuration's, and is cached with a device id. -/
def isCached (t : Loading) (keystoreData : Bytes) (id : Option String) : Bool :=
  t.configuration.keystore = some keystoreData &&
    (cachedFor t).map (fun cached => (cached.keystoreData, cached.handler.certificateDeviceId)) =
      some (keystoreData, id)

/-- A call then returns the handler cached. -/
theorem exists_of_isCached {t : Loading} {keystoreData : Bytes} {id : Option String}
    (h : isCached t keystoreData id = true) : ∃ handler, (loadAndStore none).run t = .ok handler t ∧
      NoCollision t ∧ (IdKnown t ↔ t.configuration.deviceId = id) := by
  obtain ⟨hkeystore, hfind⟩ := Bool.and_eq_true_iff.1 h
  obtain ⟨cached, hcached, hpair⟩ := Option.map_eq_some_iff.1 (of_decide_eq_true hfind)
  obtain ⟨rfl, rfl⟩ := Prod.mk.inj hpair
  refine ⟨cached.handler, run_loadAndStore_of_some hcached, fun cached' hcached' => ?_, ?_⟩
  · obtain rfl := Option.some.inj (hcached.symm.trans hcached')
    exact of_decide_eq_true hkeystore
  · unfold IdKnown
    rw [hcached]

/-- The keystore generated is found in the cache, by its configuration and
by one without a device id, and is imported by a process that starts with
that configuration. -/
theorem identity_matches_iff_sample :
    (∃ handler t', (Loader.loadAndStore none).run Sample.generated = .ok handler t' ∧
      handler.Matches t'.configuration) ∧
    (∃ handler t', (Loader.loadAndStore none).run ⟨Sample.configurationOf (some [0x62]),
        Sample.generated.keystoreHandlersCacheByHash⟩ = .ok handler t' ∧
      ¬ handler.Matches t'.configuration) ∧
    ∃ handler t', (Loader.loadAndStore none).run ⟨Sample.generated.configuration, ∅⟩ =
      .ok handler t' ∧
      handler.Matches t'.configuration := by
  have htrips (keystoreAlgo : String) : GeneratedKey.RoundTrips none keystoreAlgo :=
    fun generated hgenerated => by cases hgenerated
  refine ⟨?_, ?_, ?_⟩
  · have hcached :
        isCached Sample.generated [0x62] Sample.generated.configuration.deviceId = true := by
      decide +kernel
    obtain ⟨handler, hcall, hcollision, hknown⟩ := exists_of_isCached hcached
    exact ⟨handler, _, hcall,
      (identity_matches_iff Sample.reaches_generated (htrips _) hcollision hcall).2 (hknown.2 rfl)⟩
  · have hcached : isCached ⟨Sample.configurationOf (some [0x62]),
        Sample.generated.keystoreHandlersCacheByHash⟩
          [0x62] Sample.generated.configuration.deviceId = true ∧
          Sample.generated.configuration.deviceId ≠ none := by
      decide +kernel
    obtain ⟨handler, hcall, hcollision, hknown⟩ := exists_of_isCached hcached.1
    refine ⟨handler, _, hcall, fun hmatches => ?_⟩
    have hid :=
      (identity_matches_iff Sample.reaches_generated (htrips _) hcollision hcall).1 hmatches
    exact hcached.2 (hknown.1 hid).symm
  · have hnone : cachedFor ⟨Sample.generated.configuration, ∅⟩ = none := by
      unfold cachedFor
      rcases Sample.generated.configuration.keystore with _ | data
      · rfl
      · exact Table.find_empty _
    have himport : (Effect.result (Loader.loadAndStore none)
        ⟨Sample.generated.configuration, ∅⟩).isSome = true ∧
        ∀ data ∈ Sample.generated.configuration.keystore,
          (importKeystore data (algoOf Sample.generated.configuration)).toOption.map Prod.snd =
            Sample.generated.configuration.deviceId := by
      decide +kernel
    obtain ⟨handler, hhandler⟩ := Option.isSome_iff_exists.1 himport.1
    have hcall := Effect.run_eq_ok_after hhandler
    have hknown : IdKnown ⟨Sample.generated.configuration, ∅⟩ := by
      unfold IdKnown
      rw [hnone]
      intro data hdata keyStore id hid
      have hsame := himport.2 data hdata
      rw [hid] at hsame
      exact hsame.symm
    refine ⟨handler, _, hcall,
      (identity_matches_iff (Sample.reaches_nil [Sample.generated.configuration])
      (htrips _) (fun cached hcached => ?_) hcall).2 hknown⟩
    rw [hnone] at hcached
    cases hcached

/-- **A keystore that is imported** leaves the configuration without a
device id. -/
theorem imported_identity_is_missing : ∃ handler t',
    (Loader.loadAndStore none).run ⟨Sample.configurationOf (some [0x62]), ∅⟩ = .ok handler t' ∧
      t'.configuration.deviceId = none ∧ ¬ handler.Matches t'.configuration := by
  have hresult : (Effect.result (Loader.loadAndStore none)
      ⟨Sample.configurationOf (some [0x62]), ∅⟩).isSome = true := by
    decide +kernel
  have hdeviceId : (Effect.after (Loader.loadAndStore none)
      ⟨Sample.configurationOf (some [0x62]), ∅⟩).configuration.deviceId = none := by
    decide +kernel
  obtain ⟨handler, hhandler⟩ := Option.isSome_iff_exists.1 hresult
  refine ⟨handler, _, Effect.run_eq_ok_after hhandler, hdeviceId, ?_⟩
  rintro ⟨⟨id, -, hid⟩, -⟩
  rw [hdeviceId] at hid
  cases hid

end Sample

end Core

end ASync
