import TwoFactorLogin.Config.Directory
import TwoFactorLogin.World

/-!
# Transports

A transport says how a connection is opened: encrypted from the first byte, or upgraded before
anything else is sent, or neither. `Transport.select` takes the one that belongs to an encryption
mode; `buildTls` prepares the checking of the server's certificate.
-/

namespace TwoFactorLogin

/-- How connections are opened. -/
structure Transport where
  mode : EncryptionMode
  useSsl : Bool
  requiresUpgrade : Bool
  deriving DecidableEq, Repr

namespace Transport

/-- The transport of an encryption mode. -/
def ofMode : EncryptionMode → Transport
  | .none => ⟨.none, false, false⟩
  | .implicitTls => ⟨.implicitTls, true, false⟩
  | .startTls => ⟨.startTls, false, true⟩

/-- Takes the transport of an encryption mode, and logs it. -/
def select (mode : EncryptionMode) : Run World Transport := do
  World.record (.transportSelected mode)
  return ofMode mode

/-- Refuses what is no encryption mode. -/
def selectUnknown (v : Value) : Run World Transport :=
  .raise (.configuration (.unimplementedEncryption v))

end Transport

/-- The settings for checking certificates. A bundle of authorities counts only when they are
checked, and has to exist. -/
def buildTls (bundleExists : String → Bool) (config : DirectoryConfig) : Run World TlsSettings := do
  if config.tlsValidate then
    match config.caBundle.filter fun path => !path.isEmpty with
    | some path =>
      if bundleExists path then return ⟨true, some path⟩
      else .raise (.configuration .invalidCaBundle)
    | none => return ⟨true, none⟩
  else
    World.record (.tlsValidationDisabled config.hostname)
    return ⟨false, none⟩

end TwoFactorLogin
