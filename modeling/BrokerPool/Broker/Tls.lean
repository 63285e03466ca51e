import BrokerPool.Config.Basic
import BrokerPool.Lifecycle.Error

/-!
# Material for a secure transport

The certificates and the identity that the settings point to, read before a connection is opened.
The certificates are a text, and the identity is any bytes.
-/

namespace BrokerPool.Broker

open Lifecycle (ConnectionError)

/-- An archive with a certificate and its key, and the password that opens it. -/
structure Identity where
  archive : List UInt8
  password : String
deriving DecidableEq, Repr

/-- What a secure transport needs (`OwnedTLSConfig`). -/
structure TlsMaterial where
  certificates : Option String := none
  identity : Option Identity := none
deriving DecidableEq, Repr

/-- Reads a file that the settings may point to; the error names its path. -/
def readAt {α : Type} (read : String → Except FileError α) :
    Option String → Except ConnectionError (Option α)
  | none => .ok none
  | some path =>
    match read path with
    | .ok a => .ok (some a)
    | .error e => .error (.tls path e)

/-- The material that settings point to (`load_tls_config`): the certificates first, then the
    identity. -/
def TlsMaterial.load (files : Files) (tls : Config.Tls) : Except ConnectionError TlsMaterial := do
  let certificates ← readAt files.readText tls.authorityPath
  let archive ← readAt files.read tls.identityPath
  return { certificates, identity := archive.map (⟨·, tls.identityPassword.getD ""⟩) }

end BrokerPool.Broker
