import MailStore.Db.Writer
import MailStore.Hash.Sha1
import MailStore.Text.Case
import MailStore.Text.Fold

/-!
# Mail messages as properties

A mail source lists mailboxes (a name, the hierarchy delimiter, special-use attributes) and
fetches messages reduced to what the importer keeps. A message becomes a message object
with these properties, in this order:

subject, conversation topic, sender name (the sender's address when the name is empty),
sender address, the recipients and the copy recipients each joined by `"; "`, the flags
(the read bit when seen), the text body, a preview, the delivery time unless the date is
the zero time, the internet message id when there is one, the HTML body as bytes when there
is one, the conversation id when the topic is not empty, the IMAP UID under the importer's
own named property, and the imported headers (`X-Mailer`, `List-Id`, `Reply-To`) that the
message has, each under a named property of the internet headers set.

The conversation topic is the subject with white space trimmed and reply and forward
prefixes (`re:`, `fw:`, `fwd:`, `aw:`, `sv:`, in any case) stripped one after the other.
The conversation id is the name-based UUID (version 5) of the lower-cased topic in the
importer's property set. The preview is the body's words joined by single spaces, cut to
255 characters.
-/

namespace MailStore

/-- A mailbox as a mail source lists it. -/
structure Mailbox where
  /-- The full name. -/
  name : String
  /-- The hierarchy delimiter; empty when the source has none. -/
  delimiter : String
  /-- Special-use and other attributes. -/
  attributes : List String
deriving DecidableEq, Repr, Inhabited

/-- A fetched message, reduced to what is imported. -/
structure MailMessage where
  /-- The IMAP UID. -/
  uid : Nat
  /-- The internet message id. -/
  messageId : String
  /-- The subject. -/
  subject : String
  /-- The sender's display name. -/
  senderName : String
  /-- The sender's address. -/
  senderEmail : String
  /-- The recipients. -/
  recipients : List String
  /-- The copy recipients. -/
  cc : List String
  /-- The date. -/
  date : Instant
  /-- Whether it was read. -/
  seen : Bool
  /-- The text body. -/
  bodyText : String
  /-- The HTML body. -/
  bodyHtml : String
  /-- Header values by header name. -/
  headers : List (String × String)
deriving Inhabited

namespace Guid

/-- The name-based UUID (version 5) of bytes in a namespace: the first sixteen bytes of the
SHA-1 digest of the namespace and the name, with the version and variant bits set. -/
def ofName (space : Guid) (name : Bytes) : Guid :=
  let h := (Sha1.digest (space.toBytes ++ name)).take 16
  let set := h.mapIdx fun i b =>
    if i = 6 then (b &&& 0x0F) ||| 0x50
    else if i = 8 then (b &&& 0x3F) ||| 0x80
    else b
  (Guid.ofBytes? set).getD Guid.nil

end Guid

namespace Mail

/-- The property set of the importer's own properties. -/
def importSet : Guid := ⟨0x6f0c2f8e4b1a4d7e, 0x9a532e8d1c7b5a90⟩

/-- The named property carrying a message's IMAP UID. -/
def uidName : NamedId := NamedId.ofLid importSet 1

/-- The headers imported into named properties. -/
def importedHeaders : List String := ["X-Mailer", "List-Id", "Reply-To"]

/-- The named properties messages are written with: the UID, then the imported headers
under their lower-case names. -/
def namedProps : List NamedId :=
  uidName :: importedHeaders.map fun h => NamedId.ofName NamedId.psInternetHeaders h.toLower

/-- The zero time, which stands for a message without a date. -/
def zeroTime : Instant := Instant.normalize (-62135596800) 0

/-- The reply and forward prefixes a topic drops. -/
def prefixes : List String := ["re", "fw", "fwd", "aw", "sv"]

/-- A subject without reply and forward prefixes, at most `fuel` of them. -/
def stripPrefixes : Nat → String → String
  | 0, s => s
  | fuel + 1, s =>
    match s.toList.idxOf? ':' with
    | none => s
    | some i =>
      let head := String.ofList (s.toList.take i)
      if prefixes.contains (Case.lower head) then
        stripPrefixes fuel (Case.trim (String.ofList (s.toList.drop (i + 1))))
      else s

/-- The conversation topic of a subject. -/
def topic (subject : String) : String := stripPrefixes (subject.length + 1) (Case.trim subject)

/-- The preview of a body. -/
def preview (body : String) : String :=
  let s := " ".intercalate (Case.fields body)
  if s.length ≤ 255 then s else String.ofList (s.toList.take 255)

/-- The conversation id of a topic. -/
def conversationId (topic : String) : Bytes :=
  (Guid.ofName importSet (Case.lower topic).toUTF8.toList).toBytes

/-- The payload the UID property of a message has, which messages are found by. -/
def uidValue (uid : Nat) : Bytes :=
  match Codec.encode 0 (some (.int (Int.toInt64 uid))) with
  | .ok p => p.data
  | .error _ => []

/-- A property of a value under a tag's id. -/
def valueProp (t : Tag) (v : Value) : PropWrite :=
  match Codec.encode t.id (some v) with
  | .ok p => PropWrite.ofRaw p
  | .error _ => ⟨t, none⟩

/-- A text property. -/
def textProp (t : Tag) (s : String) : PropWrite := valueProp t (Value.ofString s)

/-- The properties of a message, given the tags of `namedProps` in the target store. -/
def messageProps (m : MailMessage) (named : List Tag) : Except Failure (List PropWrite) := do
  if named.length ≠ 1 + importedHeaders.length then
    throw (Failure.other ("expected " ++ toString (1 + importedHeaders.length) ++
      " named tags, got " ++ toString named.length))
  let t := topic m.subject
  let sender := if m.senderName.isEmpty then m.senderEmail else m.senderName
  let headerProps := (importedHeaders.zip (named.drop 1)).filterMap fun (h, tag) =>
    (m.headers.lookup h).map (textProp tag)
  pure ([textProp Tag.subject m.subject, textProp Tag.conversationTopic t,
      textProp Tag.senderName sender, textProp Tag.senderEmail m.senderEmail,
      textProp Tag.displayTo ("; ".intercalate m.recipients),
      textProp Tag.displayCc ("; ".intercalate m.cc),
      valueProp Tag.messageFlags (.int (if m.seen then 1 else 0)),
      textProp Tag.body m.bodyText, textProp Tag.preview (preview m.bodyText)] ++
    (if m.date = zeroTime then [] else [valueProp Tag.deliveryTime (.dateTime m.date)]) ++
    (if m.messageId.isEmpty then [] else [textProp Tag.internetMessageId m.messageId]) ++
    (if m.bodyHtml.isEmpty then [] else [valueProp Tag.html (.binary m.bodyHtml.toUTF8.toList)]) ++
    (if t.isEmpty then [] else [valueProp Tag.conversationId (.binary (conversationId t))]) ++
    [valueProp (named.headD Tag.null) (.int (Int.toInt64 m.uid))] ++ headerProps)

theorem topic_empty : topic "" = "" := by decide +kernel

end Mail

end MailStore
