import ASync.Common.Effect
import ASync.Common.Run
import ASync.Core.Model.ConfigurationService
/-!
# Loading the keystore

A loader gives the handler of a configuration's keystore: one that is
cached for it, a new one of the keystore imported, or one of a keystore
that is generated and set in the configuration. The cache is shared by all
configurations of the process.
-/

namespace ASync

namespace Core

/-- A certificate of a keystore. -/
inductive Certificate
  /-- An `X509Certificate`, encoded. -/
  | x509 (derData : Bytes)
  | other
  deriving DecidableEq

/-- A `java.security.KeyStore`: its certificates in the order of the
aliases. -/
structure KeyStore where
  certificates : List Certificate
  deriving DecidableEq

/-- The types of keystores, and what they read from data under the
password. -/
class KeyStores where
  /-- `KeyStore.getInstance` knows the type. -/
  isType : String → Bool
  getDefaultType : String
  /-- `load`, unless it throws. -/
  load : String → Bytes → Option KeyStore

/-- A key pair's certificate, encoded, and what `store` makes of the
keystore that holds it, unless it throws. -/
structure GeneratedKey where
  certificateDerData : Bytes
  exported : Option Bytes

def GeneratedKey.keyStore (key : GeneratedKey) : KeyStore := ⟨[.x509 key.certificateDerData]⟩

/-- A handler, as far as its keystore goes. -/
structure KeystoreHandler where
  keyStore : KeyStore
  deriving DecidableEq

namespace KeystoreHandler

variable [Guava]

def derDataToDeviceIdString (certificateDerData : Bytes) : Except JavaException String :=
  hashDataToDeviceIdString (sha256 certificateDerData)

/-- The key under which a handler is cached. -/
def hashOf (keystoreData : Bytes) : String := base32Encode (sha256 keystoreData)

/-- A cached handler, with the data it was put for. -/
structure Cached where
  keystoreData : Bytes
  handler : KeystoreHandler

/-- A configuration, and the cache of the loader. -/
structure Loading where
  configuration : ConfigurationService
  keystoreHandlersCacheByHash : Table String Cached

namespace Loader

variable [KeyStores]

def importKeystore (keystoreData : Bytes) (keystoreAlgo : String) :
    Except JavaException (KeyStore × String) := do
  checkArgument (KeyStores.isType keystoreAlgo) (keystoreAlgo ++ " not found")
  match KeyStores.load keystoreAlgo keystoreData with
  | none => throw (.runtime "IOException")
  | some keyStore =>
    match keyStore.certificates with
    | [] => throw .noSuchElement
    | .other :: _ => throw (.illegalArgument "")
    | .x509 derData :: _ => return (keyStore, ← derDataToDeviceIdString derData)

/-- The keystore of a key pair, unless none could be made. -/
def generateKeystore (key : Option GeneratedKey) (keystoreAlgo : String) :
    Except JavaException (GeneratedKey × String) := do
  match key with
  | none => throw (.runtime "GeneralSecurityException")
  | some key =>
    let deviceId ← derDataToDeviceIdString key.certificateDerData
    checkArgument (KeyStores.isType keystoreAlgo) (keystoreAlgo ++ " not found")
    return (key, deviceId)

/-- The type of the configuration's keystore, the default one where none is
set. -/
def algoOf (configuration : ConfigurationService) : String :=
  if isBlank configuration.keystoreAlgo then KeyStores.getDefaultType
    else configuration.keystoreAlgo.getD ""

/-- The handler cached for the configuration's keystore. -/
def cachedFor (s : Loading) : Option Cached :=
  s.configuration.keystore.bind fun keystoreData =>
    s.keystoreHandlersCacheByHash.find (hashOf keystoreData)

/-- A handler is put into the cache, and returned. -/
def cache (keystoreData : Bytes) (handler : KeystoreHandler) :
    EStateM JavaException Loading KeystoreHandler := do
  modify fun s => { s with
    keystoreHandlersCacheByHash :=
      s.keystoreHandlersCacheByHash.merge (hashOf keystoreData) ⟨keystoreData, handler⟩ }
  return handler

/-- The device id is set before the keystore is exported. -/
def storeGenerated (key : GeneratedKey) (deviceId keystoreAlgo : String) :
    EStateM JavaException Loading KeystoreHandler := do
  modify fun s => { s with configuration := { s.configuration with deviceId := some deviceId } }
  match key.exported with
  | none => throw (.runtime "KeyStoreException")
  | some keystoreData =>
    modify fun s => { s with
      configuration := { s.configuration with
        keystore := some keystoreData
        keystoreAlgo := some keystoreAlgo } }
    cache keystoreData ⟨key.keyStore⟩

/-- The handler of a keystore that is generated. -/
def generate (key : Option GeneratedKey) (keystoreAlgo : String) :
    EStateM JavaException Loading KeystoreHandler :=
  match generateKeystore key keystoreAlgo with
  | .ok (key, deviceId) => storeGenerated key deviceId keystoreAlgo
  | .error _ => throw (.nullPointer "unable to aquire keystore")

/-- The configuration, with the type of its keystore set. -/
def withAlgo (configuration : ConfigurationService) : ConfigurationService :=
  if isBlank configuration.keystoreAlgo then
    { configuration with keystoreAlgo := some (algoOf configuration) }
  else configuration

/-- `loadAndStore`, with the key pair it makes if it makes one. -/
def loadAndStore (key : Option GeneratedKey) : EStateM JavaException Loading KeystoreHandler := do
  let s ← get
  match cachedFor s with
  | some cached => return cached.handler
  | none =>
    let keystoreAlgo := algoOf s.configuration
    modify fun s => { s with configuration := withAlgo s.configuration }
    match s.configuration.keystore with
    | none => generate key keystoreAlgo
    | some keystoreData =>
      match importKeystore keystoreData keystoreAlgo with
      | .ok (keyStore, _) => cache keystoreData ⟨keyStore⟩
      -- the exception is logged
      | .error _ => generate key keystoreAlgo

end Loader

end KeystoreHandler

/-! ## Runs -/

section Runs

variable [Guava] [KeyStores]

/-- The configurations of a process, and the loader's cache. -/
structure Keystores where
  configurations : List ConfigurationService
  keystoreHandlersCacheByHash : Table String KeystoreHandler.Cached := ∅

inductive KeystoreEvent
  | loadAndStore (configuration : ℕ) (key : Option GeneratedKey)
  /-- A configuration is changed in another way. -/
  | edit (configuration : ℕ) (edited : ConfigurationService)
  /-- The cache makes room. -/
  | evict (hash : String)

/-- What is exported of a keystore is loaded as the keystore again. -/
def GeneratedKey.RoundTrips (key : Option GeneratedKey) (keystoreAlgo : String) : Prop :=
  ∀ generated ∈ key, ∀ data ∈ generated.exported,
    KeyStores.load keystoreAlgo data = some generated.keyStore

open KeystoreHandler in
/-- The calls of `loadAndStore` on any configurations. -/
def keystoreLoading : Machine Keystores KeystoreEvent where
  start s := s.keystoreHandlersCacheByHash = ∅
  step s e s' :=
    match e with
    | .loadAndStore i key => ∃ configuration, s.configurations[i]? = some configuration ∧
        GeneratedKey.RoundTrips key (Loader.algoOf configuration) ∧
        ∃ t, t = Effect.after (Loader.loadAndStore key) ⟨configuration,
          s.keystoreHandlersCacheByHash⟩ ∧
          s' = { configurations := s.configurations.set i t.configuration
                 keystoreHandlersCacheByHash := t.keystoreHandlersCacheByHash }
    | .edit i edited => s' = { s with configurations := s.configurations.set i edited }
    | .evict hash => s' = { s with
        keystoreHandlersCacheByHash := s.keystoreHandlersCacheByHash.delete hash }

end Runs

end Core

end ASync
