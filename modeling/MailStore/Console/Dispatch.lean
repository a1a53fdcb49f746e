import MailStore.Console.Codec
import MailStore.Console.EntityScript
import MailStore.Console.SqlScript
import MailStore.Console.SettingsScript
import MailStore.Json.Parse

/-!
# The console

The console reads one request per line and writes one answer per line. A request names
its operation in `op`; an unknown operation (`unknown op: name`), or a line that is no JSON
object (`invalid JSON request`), is a malformed request.
-/

namespace MailStore

namespace Console

/-- The answer to a parsed request. -/
def handle (req : Json) : Json :=
  match stringOr ((req.get? "op").getD .null) with
  | "decode" => answer (decodeRequest req)
  | "encode" => answer (encodeRequest req)
  | "utf16_decode" => answer (utf16DecodeRequest req)
  | "utf16_encode" => answer (utf16EncodeRequest req)
  | "filetime" => answer (fileTimeRequest req)
  | "time_to_filetime" => answer (timeToFileTimeRequest req)
  | "tag" => answer (tagRequest req)
  | "column_type" => answer (columnTypeRequest req)
  | "named" => answer (namedRequest req)
  | "special_folder" => answer (specialFolderRequest req)
  | "value" => answer (valueRequest req)
  | "idcache" => answer (nameCacheRequest req)
  | "props" => answer (propertiesRequest req)
  | "entity" => answer (entityRequest req)
  | "sql" => answer (sqlRequest req)
  | "config" => answer (settingsRequest req)
  | other => failed (badRequest ("unknown op: " ++ other))

/-- The answer line to a request line: a line that is no JSON object (nor `null`) is a
malformed request. -/
def respond (line : String) : String :=
  match Json.parse line with
  | .ok (.object ms) => Json.render (handle (.object ms))
  | .ok .null => Json.render (handle .null)
  | _ => Json.render (failed (badRequest "invalid JSON request"))

end Console

end MailStore
