import TopologyExporter.Text.Utf8

/-!
# Fingerprints

The numbers that stand for descriptors in messages: a hash of 64 bits that takes one byte at a time.
-/

namespace TopologyExporter

/-- The hash before any byte. -/
def fingerprintBasis : UInt64 := 0xCBF29CE484222325

/-- What a hash is multiplied by after each byte. -/
def fingerprintPrime : UInt64 := 0x100000001B3

/-- The hash of some texts, each followed by a byte that no text holds. -/
def fingerprint (texts : List String) : Nat :=
  let bytes := texts.flatMap fun s => Text.utf8 s ++ [0xFF]
  (bytes.foldl (fun h b => (h ^^^ b.toUInt64) * fingerprintPrime) fingerprintBasis).toNat

end TopologyExporter
