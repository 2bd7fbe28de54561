import RecordLayer.Text.Quoted
import RecordLayer.Version

/-!
# Options

The policy that a host sets when it builds a context. The defaults allow the versions 1.0 to 1.2 and
ask no client for a certificate.

* `Options.protocols` lists the versions of the policy, oldest first;
* `Options.clientAuth` reads the two low bits of the verification mode, of which the second wins.
-/

namespace RecordLayer

structure Options where
  noTls10 : Bool := false
  /-- Leaves out 1.0 as well. -/
  noTls11 : Bool := false
  enableTls13 : Bool := false
  verifyMode : UInt32 := 0
  cipherList : Option String := none
  /-- Without a preference the environment decides. -/
  preferNative : Option Bool := none
  deriving DecidableEq, Inhabited

/-- Whether clients have to show a certificate. -/
inductive ClientAuth where
  | none
  | request
  | require
  deriving DecidableEq

def ClientAuth.name : ClientAuth → String
  | none => "None"
  | request => "Request"
  | require => "Require"

namespace Options

/-- The bit that asks for a client certificate. -/
def verifyPeer : UInt32 := 1

/-- The bit that insists on a client certificate. -/
def verifyForcePeer : UInt32 := 2

def protocols (o : Options) : List ProtocolVersion :=
  let older : List ProtocolVersion :=
    if o.noTls11 then [.tls12]
    else if o.noTls10 then [.tls11, .tls12]
    else [.tls10, .tls11, .tls12]
  if o.enableTls13 then older ++ [.tls13] else older

/-- The versions of the policy that can be spoken. -/
def versions (o : Options) : List TlsVersion :=
  o.protocols.filterMap ProtocolVersion.spoken?

/-- The versions of the policy that cannot be spoken and are dropped. -/
def dropped (o : Options) : List ProtocolVersion :=
  o.protocols.filter fun v => v.spoken?.isNone

def clientAuth (o : Options) : ClientAuth :=
  if o.verifyMode &&& verifyForcePeer ≠ 0 then .require
  else if o.verifyMode &&& verifyPeer ≠ 0 then .request
  else .none

theorem versions_eq (o : Options) :
    o.versions = if o.enableTls13 then [.tls12, .tls13] else [.tls12] := by
  obtain ⟨noTls10, noTls11, enableTls13, _, _, _⟩ := o
  cases noTls10 <;> cases noTls11 <;> cases enableTls13 <;> rfl

/-! ### Written form -/

def describeOption {α : Type} (write : α → String) : Option α → String
  | none => "None"
  | some a => "Some(" ++ write a ++ ")"

/-- The options as shown in diagnostics. -/
def describe (o : Options) : String :=
  "SslOptions \x7b no_tlsv1: " ++ toString o.noTls10 ++ ", no_tlsv1_1: " ++ toString o.noTls11 ++
    ", enable_tlsv1_3: " ++ toString o.enableTls13 ++ ", verify_mode: " ++
    toString o.verifyMode.toNat ++ ", ssl_cipher_list: " ++
    describeOption Text.Quoted.encode o.cipherList ++ ", prefer_native_engine: " ++
    describeOption toString o.preferNative ++ " \x7d"

end Options

end RecordLayer
