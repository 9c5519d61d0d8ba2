/-!
Text as bytes.
-/
namespace ClientGen.Text

def ofBytes? (bytes : List Nat) : Option String :=
  String.fromUTF8? ⟨(bytes.map UInt8.ofNat).toArray⟩

end ClientGen.Text
