import MailStore.Failure

/-!
# Addresses to listen on

A TCP listening address is `host:port`, the host in brackets when it holds colons. The port
is a decimal number from 0 to 65535, optionally signed, or the name of a well-known
service; an empty port means any port. Splitting the address and reading the port fail
with the wording of the network layer, after `listen tcp: `:

* `address a:b:c: too many colons in address`, `address x: missing port in address`, and
  the bracket problems;
* `address 99999: invalid port` for a number out of range;
* `lookup tcp/name: unknown port` for a service name that is not known.

Hosts are not looked up: any host is taken to be listenable.
-/

namespace MailStore

namespace ListenAddress

/-- Why an address is refused: the address (or part) it names and the reason. -/
def addrError (addr why : String) : String :=
  if addr.isEmpty then why else "address " ++ addr ++ ": " ++ why

/-- The host and port of `host:port`, or why it does not split. -/
def split (hostport : String) : Except String (String × String) := do
  let cs := hostport.toList
  let some i := (List.range cs.length).reverse.find? fun k => cs[k]? = some ':'
    | throw (addrError hostport "missing port in address")
  let (host, j, k) ← if cs.head? = some '[' then do
      let some e := (List.range cs.length).find? fun k => cs[k]? = some ']'
        | throw (addrError hostport "missing ']' in address")
      if e + 1 = cs.length then throw (addrError hostport "missing port in address")
      else if e + 1 ≠ i then
        if cs[e + 1]? = some ':' then throw (addrError hostport "too many colons in address")
        else throw (addrError hostport "missing port in address")
      pure (String.ofList ((cs.take e).drop 1), 1, e + 1)
    else
      let host := cs.take i
      if host.contains ':' then throw (addrError hostport "too many colons in address")
      pure (String.ofList host, 0, 0)
  if (cs.drop j).contains '[' then throw (addrError hostport "unexpected '[' in address")
  if (cs.drop k).contains ']' then throw (addrError hostport "unexpected ']' in address")
  pure (host, String.ofList (cs.drop (i + 1)))

/-- The well-known TCP services and their ports. -/
def services : List (String × Nat) :=
  [("ftp", 21), ("ftps", 990), ("gopher", 70), ("http", 80), ("https", 443), ("imap2", 143),
   ("imap3", 220), ("imaps", 993), ("pop3", 110), ("pop3s", 995), ("smtp", 25),
   ("submissions", 465), ("ssh", 22), ("telnet", 23)]

/-- A port number as written: an optional sign and decimal digits, growing no further once
it passes `2^30`; `none` when it is not a number and has to be looked up. -/
def portNumber? (service : String) : Option Int :=
  if service.isEmpty then some 0
  else
    let cs := service.toList
    let (neg, ds) := match cs with
      | '+' :: r => (false, r)
      | '-' :: r => (true, r)
      | _ => (false, cs)
    if !ds.all Char.isDigit then none
    else
      let n : Nat :=
        ds.foldl (fun n c => if n ≥ Nat.pow 2 30 then n else 10 * n + (c.toNat - 48)) 0
      let n : Int :=
        if !neg ∧ n ≥ Nat.pow 2 30 then Int.pow 2 30 - 1
        else if neg ∧ n > Nat.pow 2 30 then Int.pow 2 30 else n
      some (if neg then -n else n)

/-- The port of a service, or why there is none. -/
def port (service : String) : Except String Nat := do
  let p ← match portNumber? service with
    | some p => pure p
    | none => match services.lookup service.toLower with
      | some p => pure (p : Int)
      | none => throw ("lookup tcp/" ++ service ++ ": unknown port")
  if p < 0 ∨ p > 65535 then throw (addrError service "invalid port")
  pure p.toNat

/-- Checks an address to listen on; fails with the network layer's message. -/
def check (addr : String) : Except Failure Unit :=
  match split addr >>= fun (_, p) => port p with
  | .ok _ => .ok ()
  | .error e => .error (Failure.other ("listen tcp: " ++ e))

theorem port_empty : port "" = .ok 0 := by
  simp [port, portNumber?]; rfl

end ListenAddress

end MailStore
