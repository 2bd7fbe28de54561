import RecordLayer.Bytes
import RecordLayer.Options

/-!
# Key material

A certificate chain with its private key, and the certificates that client certificates are checked
against. Without a list of its own the chain itself is the list of trust anchors; an empty list of
its own stays empty.
-/

namespace RecordLayer

structure KeyMaterial where
  chain : List Bytes
  key : Bytes
  anchors : Option (List Bytes) := none
  deriving DecidableEq

namespace KeyMaterial

def trustAnchors (k : KeyMaterial) : List Bytes :=
  k.anchors.getD k.chain

/-- The key material as shown in diagnostics: lengths alone. -/
def describe (k : KeyMaterial) : String :=
  "KeyMaterial \x7b cert_chain_len: " ++ toString k.chain.length ++
    ", client_trust_anchors_len: " ++
    Options.describeOption (fun anchors => toString anchors.length) k.anchors ++ ", .. \x7d"

end KeyMaterial

end RecordLayer
