import WolfEngine.Stream.Common.Callback

/-! # The TLS acceptor

`stream/common/tls.rs`.  Opening files, `rustls_pemfile` and `rustls` are what the
environment answers.
-/

namespace WolfEngine.Stream

inductive TlsPrivateKeyType where
  | pkcs8
  | rsa
deriving DecidableEq

/-- The derived `Debug`. -/
def TlsPrivateKeyType.debug : TlsPrivateKeyType → String
  | .pkcs8 => "PKCS8"
  | .rsa => "RSA"

/-- A `Path`, by its `{:?}` text. -/
structure Path where
  debug : String
deriving DecidableEq

structure Certificate where
  der : List UInt8
deriving DecidableEq

structure PrivateKey where
  der : List UInt8
deriving DecidableEq

/-- The outside of `Tls::new`: what the files hold, and what the parsers and the
builder of a `ServerConfig` make of it. -/
structure TlsEnv (File ServerConfig : Type) where
  openFile : Path → Except IoError File
  certs : File → Except IoError (List (List UInt8))
  pkcs8PrivateKeys : File → Except IoError (List (List UInt8))
  rsaPrivateKeys : File → Except IoError (List (List UInt8))
  /-- `with_single_cert`, with the `{:?}` text of its error. -/
  withSingleCert : List Certificate → PrivateKey → Except String ServerConfig

structure Tls (ServerConfig : Type) where
  acceptor : ServerConfig

/-- `e.context(text)`, as `{:?}` shows it. -/
def Error.context (e : Error) (text : String) : Error :=
  ⟨text ++ "\n\nCaused by:\n    " ++ e.debug⟩

namespace Tls

variable {File ServerConfig : Type} (env : TlsEnv File ServerConfig)

def loadCerts (path : Path) : Except Error (List Certificate) :=
  match env.openFile path >>= env.certs with
  | .ok certs => .ok (certs.map Certificate.mk)
  | .error e =>
    .error ⟨"could not load certs " ++ path.debug ++ " because of " ++ e.debug⟩

def loadPrivateKeys (path : Path) (type_ : TlsPrivateKeyType) : Except Error (List PrivateKey) :=
  let parse := match type_ with
    | .pkcs8 => env.pkcs8PrivateKeys
    | .rsa => env.rsaPrivateKeys
  match env.openFile path >>= parse with
  | .ok keys => .ok (keys.map PrivateKey.mk)
  | .error e =>
    .error ⟨"could not load private keys " ++ path.debug ++ " with type " ++ type_.debug ++
      " because of " ++ e.debug⟩

def errMsg : Error := ⟨"Invalid Parameters for tcp::run_server"⟩

/-- `option.ok_or_else(|| anyhow!(err_msg).context(text))`. -/
def given {α : Type} (option : Option α) (text : String) : Except Error α :=
  match option with
  | some value => .ok value
  | none => .error (errMsg.context text)

/-- `ensure!(condition, text)`. -/
def ensure (condition : Bool) (text : String) : Except Error Unit :=
  if condition then .ok () else .error ⟨text⟩

/-- The certificates and keys, up to the second `ensure!`. -/
def loaded (certificatePath privateKeyPath : Option Path) (privateType : Option TlsPrivateKeyType) :
    Except Error (List Certificate × List PrivateKey) := do
  let crt ← given certificatePath "p_tls_certificate_path not provided for tcp server"
  let certs ← loadCerts env crt
  -- the polarity is the source's: the list has to be empty
  ensure certs.isEmpty "missing certificate for TLS tcp server"
  let key ← given privateKeyPath "p_tls_private_key_path not provided for tcp server"
  let keyType ← given privateType "p_tls_private_type not provided for tcp server"
  let keys ← loadPrivateKeys env key keyType
  ensure keys.isEmpty "missing private key for TLS tcp server"
  return (certs, keys)

def new (certificatePath privateKeyPath : Option Path) (privateType : Option TlsPrivateKeyType) :
    Status (Except Error (Tls ServerConfig)) :=
  match loaded env certificatePath privateKeyPath privateType with
  | .error e => .returned (.error e)
  -- `keys.remove(0)` of an empty vector
  | .ok (_, []) => .panicked
  | .ok (certs, key :: _) =>
    match env.withSingleCert certs key with
    | .error e => .returned (.error ⟨"could not build tls server config because of " ++ e⟩)
    | .ok config => .returned (.ok ⟨config⟩)

end Tls

end WolfEngine.Stream
