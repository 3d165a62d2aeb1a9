import Querent.Instant.Basic
import Querent.Json.Reader
import Querent.Json.Printer
import Querent.Text.Utf8

/-! From the values of an engine to JSON. An engine has decoders that are tried in turn; a value that
none of them takes becomes null. -/
namespace Querent.Database

abbrev Decoder (ν : Type) := ν → Option Json

def decodeBy {ν : Type} (decoders : List (Decoder ν)) (v : ν) : Json :=
  (decoders.findSome? fun decoder => decoder v).getD .null

namespace Decoder

def utf8? (octets : Text.Utf8.Octets) : Option Json :=
  match Text.Utf8.decode octets with
  | .ok cs => some (.text (String.ofList cs))
  | .error _ => none

def json? (octets : Text.Utf8.Octets) : Option Json :=
  match Text.Utf8.decode octets with
  | .ok cs => (Json.read cs).toOption
  | .error _ => none

def lossy (octets : Text.Utf8.Octets) : Json := .text (String.ofList (Text.Utf8.lossy octets))

def instant (t : Instant) : Json := .text (String.ofList t.renderOffset)

end Decoder
end Querent.Database
