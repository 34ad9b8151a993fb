import TunBridge.Url.Host
/-!
Form-encoded queries: pairs separated by `&`, empty ones skipped, each split at its first `=`;
in name and value a `+` is a space and `%XX` the byte it names. Names and values are kept as
bytes.
-/
namespace TunBridge.Url

def formDecode (bs : List UInt8) : List UInt8 :=
  percentDecode (bs.map fun b => if b = 43 then 32 else b)

def formPairs (query : String) : List (List UInt8 × List UInt8) :=
  ((query.toList.flatMap String.utf8EncodeChar).splitOn 38).filterMap fun pair =>
    if pair.isEmpty then none
    else some (formDecode (pair.takeWhile (· ≠ 61)), formDecode ((pair.dropWhile (· ≠ 61)).drop 1))

/-- The value of the first pair with this name. -/
def firstValue (query : String) (name : String) : Option (List UInt8) :=
  ((formPairs query).find? (·.1 = name.toList.flatMap String.utf8EncodeChar)).map (·.2)

end TunBridge.Url
