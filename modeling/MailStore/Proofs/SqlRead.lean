import Mathlib
import MailStore.Proofs.Frame
import MailStore.Console.SqlScript

/-!
# Reading the property database

The database answers a bulk read with every value no longer than its inline limit and an error
property in place of each longer one; a value is read whole only through a stream. Apart from
that one comparison, nothing the database does depends on the limit.

An operation is blind to a change `g` of the state (`Blind g x`) when running it from a changed
state gives the same outcome and the changed final state: it neither reads nor writes what `g`
changes. Reading the properties of an entry is blind to the inline limit, and it leaves the
database as it is: the two queries it runs are selects, and a select leaves the connection alone.
So what the database holds for an opened object (`SqlBench.stored`) is the same under every
inline limit, and the bulk read and the stream of a value are both projections of it.

## Main statements

* `Blind.bind`, `Blind.tryCatch`, `Blind.forIn`: a program built from blind operations is blind.
* `PropertyDb.loadProps_blind`, `PropertyDb.loadProps_stays`: reading an entry's properties
  neither sees the inline limit nor changes the database.
* `SqlBench.getProps_ends`, `SqlBench.openStream_ends`: the bulk read and the opening of a stream
  on the database, as projections of what it holds for the object.
-/

namespace MailStore

variable {ε σ α β γ : Type}

/-! ### Operations blind to a change of state -/

/-- `x` is blind to the change `g` of the state: from a changed state it ends as from the
original one, in the changed final state. -/
def Blind (g : σ → σ) (x : ExceptT ε (StateM σ) α) : Prop :=
  ∀ s, x.run.run (g s) = ((x.run.run s).1, g (x.run.run s).2)

namespace Blind

variable {g : σ → σ}

/-- What follows a blind operation runs from the changed state it ends in. -/
theorem run_bind {x : ExceptT ε (StateM σ) β} (hx : Blind g x) (f : β → ExceptT ε (StateM σ) α)
    (s : σ) :
    (x >>= f).run.run (g s) =
      match x.run.run s with
      | (.ok b, s') => (f b).run.run (g s')
      | (.error e, s') => (.error e, g s') := by
  rw [ExceptT.run_bind, StateT.run_bind, hx s]
  rcases x.run.run s with ⟨_ | b, s'⟩ <;> rfl

/-- An operation is blind when it ends from every changed state as from the original one. -/
theorem of_ends {x : ExceptT ε (StateM σ) α}
    (h : ∀ s (Q : α → σ → Prop) (E : ε → σ → Prop),
      Ends x s (fun a s' => Q a (g s')) (fun e s' => E e (g s')) → Ends x (g s) Q E) :
    Blind g x := by
  intro s
  have key := h s (fun a s' => (.ok a, s') = ((x.run.run s).1, g (x.run.run s).2))
    (fun e s' => (.error e, s') = ((x.run.run s).1, g (x.run.run s).2)) (by
      unfold Ends
      rcases x.run.run s with ⟨_ | a, s'⟩ <;> rfl)
  unfold Ends at key
  revert key
  rcases x.run.run (g s) with ⟨_ | a, s'⟩ <;> exact id

theorem pure {a : α} : Blind g (Pure.pure a : ExceptT ε (StateM σ) α) := fun _ => rfl

theorem throw {f : ε} : Blind g (MonadExcept.throw f : ExceptT ε (StateM σ) α) := fun _ => rfl

theorem bind {x : ExceptT ε (StateM σ) β} {f : β → ExceptT ε (StateM σ) α} (hx : Blind g x)
    (hf : ∀ b, Blind g (f b)) : Blind g (x >>= f) := by
  intro s
  rw [run_bind hx, ExceptT.run_bind, StateT.run_bind]
  rcases x.run.run s with ⟨_ | b, s'⟩
  · rfl
  · exact hf b s'

theorem tryCatch {x : ExceptT ε (StateM σ) α} {h : ε → ExceptT ε (StateM σ) α} (hx : Blind g x)
    (hh : ∀ e, Blind g (h e)) : Blind g (MonadExcept.tryCatch x h) := by
  intro s
  have hrun : ∀ s₀, (MonadExcept.tryCatch x h).run.run s₀ =
      match x.run.run s₀ with
      | (.ok a, s') => (.ok a, s')
      | (.error e, s') => (h e).run.run s' := by
    intro s₀
    rw [ExceptT.run_tryCatch, StateT.run_bind]
    rcases x.run.run s₀ with ⟨_ | a, s'⟩ <;> rfl
  rw [hrun, hrun, hx s]
  rcases x.run.run s with ⟨_ | a, s'⟩
  · exact hh _ s'
  · rfl

theorem mapM {f : γ → ExceptT ε (StateM σ) α} (h : ∀ c, Blind g (f c)) (l : List γ) :
    Blind g (l.mapM f) := by
  induction l with
  | nil => exact pure
  | cons c l ih =>
    rw [List.mapM_cons]
    exact bind (h c) fun _ => bind ih fun _ => pure

/-- A loop whose every turn is blind is blind. -/
theorem forIn {f : γ → β → ExceptT ε (StateM σ) (ForInStep β)} (h : ∀ c b, Blind g (f c b))
    (l : List γ) (init : β) : Blind g (forIn l init f) := by
  induction l generalizing init with
  | nil => exact pure
  | cons c l ih =>
    rw [List.forIn_cons]
    refine bind (h c init) fun step => ?_
    cases step with
    | done b => exact pure
    | yield b => exact ih b

end Blind

/-! ### Statements that only read -/

namespace Sql

/-- A select leaves the connection as it is. -/
theorem Connection.execute_select (c : Connection) (params : Array Value) (q : Select) :
    (c.execute params (.select q)).1 = c := by
  simp only [Connection.execute]
  split <;> rfl

/-- A statement that starts with the word `SELECT` is read as a select, if it is read at all. -/
theorem Parser.statement_select {f : Nat} {start : Reading} {t : Token} {rest : List Token}
    (ht : start.tokens = t :: rest) (hw : t.kind = .word) (hk : t.text.toUpper = "SELECT")
    {st : Stmt} {r : Reading} (h : (Parser.statement f).run start = .ok (st, r)) :
    ∃ q, st = .select q := by
  have hsemi : t.isOp ";" = false := by simp [Token.isOp, hw]
  have hpeek : Parser.peek.run start = .ok (some t, start) := by
    unfold Parser.peek
    simp only [StateT.run_bind]
    rw [StateT.run_get]
    simp [ht, hw, hsemi]
    rfl
  have hok : ∀ (a : Option Token × Reading)
      (k : Option Token × Reading → Except ParseError (Stmt × Reading)), (Except.ok a >>= k) = k a :=
    fun _ _ => rfl
  unfold Parser.statement at h
  rw [StateT.run_bind, hpeek, hok] at h
  -- the first word picks the branch that reads a select
  simp only [hw, hk, bne_self_eq_false, Bool.false_eq_true, if_false, true_or, if_true] at h
  rw [StateT.run_bind] at h
  rcases hs : (Parser.select f).run start with _ | ⟨q, r'⟩
  · rw [hs] at h
    cases h
  · exact ⟨q, by rw [hs] at h; cases h; rfl⟩

/-- A text whose first statement starts with `SELECT` prepares as a select, or as nothing when
it cannot be read. -/
theorem prepared_select (text : String) {t : Token} {rest : List Token}
    (ht : tokenize text = t :: rest) (hw : t.kind = .word) (hk : t.text.toUpper = "SELECT") :
    (∃ q, Db.prepared text = .select q) ∨ Db.prepared text = .other text := by
  have hsemi : t.isOp ";" = false := by simp [Token.isOp, hw]
  unfold Db.prepared parseStatement parseScript
  simp only [ht, List.length_cons]
  simp only [parseScript.go, hsemi, Bool.false_eq_true, if_false]
  rcases hs : (Parser.statement (64 * ((t :: rest).length + 1))).run
      ⟨t :: rest, t.start, 0, [], text.toList⟩ with e | ⟨st, r⟩
  · exact .inr rfl
  · obtain ⟨q, rfl⟩ := Parser.statement_select rfl hw hk hs
    -- whatever follows the select, the first answer of the text is that select or a failure
    rcases hr : r.tokens with _ | ⟨u, more⟩
    · simp only [hr]
      exact .inl ⟨q, rfl⟩
    · simp only [hr]
      by_cases hu : u.isOp ";" = true
      · simp only [hu, if_true]
        rcases parseScript.go text.toList (rest.length + 1) more with _ | ⟨x, xs⟩ <;>
          exact .inl ⟨q, rfl⟩
      · by_cases hi : (u.kind == TokenKind.illegal) = true
        · simp only [hu, hi, if_true, if_false, Bool.false_eq_true]
          exact .inr trivial
        · simp only [hu, hi, if_false, Bool.false_eq_true]
          exact .inr trivial

/-- A prepared text that starts with `SELECT` leaves the connection as it is. -/
theorem prepared_reads_only (text : String)
    (h : ((tokenize text).head?.any fun t => t.kind == .word && t.text.toUpper == "SELECT") = true)
    (c : Connection) (params : Array Value) : (c.execute params (Db.prepared text)).1 = c := by
  obtain ⟨t, rest, ht⟩ : ∃ t rest, tokenize text = t :: rest := by
    cases hts : tokenize text with
    | nil => simp [hts] at h
    | cons t rest => exact ⟨t, rest, rfl⟩
  simp only [ht, List.head?_cons, Option.any_some, Bool.and_eq_true, beq_iff_eq] at h
  rcases prepared_select text ht h.1 h.2 with ⟨q, hq⟩ | hq
  · rw [hq]
    exact c.execute_select params q
  · rw [hq]
    rfl

end Sql

/-- The query of an entry's stored properties only reads. -/
theorem Db.Query.props_reads_only (c : Sql.Connection) (params : Array Sql.Value) :
    (c.execute params Db.Query.props).1 = c := by
  unfold Db.Query.props
  exact Sql.prepared_reads_only _ (by decide +kernel) c params

/-- The query that counts a folder's contents only reads. -/
theorem Db.Query.folderCounts_reads_only (c : Sql.Connection) (params : Array Sql.Value) :
    (c.execute params Db.Query.folderCounts).1 = c := by
  unfold Db.Query.folderCounts
  exact Sql.prepared_reads_only _ (by decide +kernel) c params

/-- The database with another inline limit. -/
def PropertyDb.withInline (p : PropertyDb) (L : Nat) : PropertyDb := { p with maxInline := L }

namespace DbM

variable {L : Nat}

/-- How a statement ends: it fails on a closed database, and otherwise the connection runs it. -/
theorem ends_perform {context : String} {st : Sql.Stmt} {params : List Sql.Value} {p : PropertyDb}
    {Q : Sql.Rows → PropertyDb → Prop} {E : Failure → PropertyDb → Prop} :
    Ends (perform context st params) p Q E ↔
      if p.closed then E (failure context closedText) p
      else match p.conn.execute params.toArray st with
        | (c, .ok rows) => Q rows { p with conn := c }
        | (c, .error f) => E (failure context f.text) { p with conn := c } := by
  unfold perform
  simp only [Ends.bind_iff, Ends.get_iff]
  split
  · rfl
  · rcases p.conn.execute params.toArray st with ⟨c, _ | rows⟩ <;> rfl

/-- A statement neither reads nor changes the inline limit. -/
theorem perform_blind (context : String) (st : Sql.Stmt) (params : List Sql.Value) :
    Blind (PropertyDb.withInline · L) (perform context st params) :=
  Blind.of_ends fun p Q E h => by
    rw [ends_perform] at h ⊢
    exact h

/-- A statement that only reads leaves the database as it is. -/
theorem perform_stays {context : String} {st : Sql.Stmt} {params : List Sql.Value}
    (hst : ∀ c params, (Sql.Connection.execute c params st).1 = c) :
    Stays id (perform context st params) := by
  intro v p (hp : p = v)
  subst hp
  rw [ends_perform]
  have hc := hst p.conn params.toArray
  split
  · rfl
  · rcases hr : p.conn.execute params.toArray st with ⟨c, _ | rows⟩
    all_goals
      rw [hr] at hc
      subst hc
      rfl

theorem column_blind {context : String} {rows : Sql.Rows} {row : Array Sql.Value} {i : Nat}
    {read : Sql.Value → Except String α} :
    Blind (PropertyDb.withInline · L) (column context rows row i read) := by
  unfold column
  split
  · exact Blind.pure
  · exact Blind.throw

theorem column_stays {context : String} {rows : Sql.Rows} {row : Array Sql.Value} {i : Nat}
    {read : Sql.Value → Except String α} : Stays id (column context rows row i read) := by
  unfold column
  split
  · exact Stays.pure
  · exact Stays.throw

end DbM

/-- A loop whose every turn leaves a view alone leaves it alone. -/
theorem Stays.forIn {π : σ → β} {f : γ → α → ExceptT ε (StateM σ) (ForInStep α)}
    (h : ∀ c a, Stays π (f c a)) (l : List γ) (init : α) : Stays π (forIn l init f) := by
  induction l generalizing init with
  | nil => exact Stays.pure
  | cons c l ih =>
    rw [List.forIn_cons]
    refine Stays.bind (h c init) fun step => ?_
    cases step with
    | done a => exact Stays.pure
    | yield a => exact ih a

namespace PropertyDb

variable {L : Nat}

/-- Reading an entry's properties neither reads nor changes the inline limit. -/
theorem loadProps_blind (e : Db.EntryRow) : Blind (withInline · L) (loadProps e) := by
  unfold loadProps
  refine Blind.bind (DbM.perform_blind _ _ _) fun rows => ?_
  refine Blind.bind (Blind.forIn (fun row props => ?_) _ _) fun props => ?_
  · exact Blind.bind DbM.column_blind fun _ => Blind.bind DbM.column_blind fun _ => Blind.pure
  · dsimp only
    split
    · exact Blind.pure
    · refine Blind.bind (DbM.perform_blind _ _ _) fun counts => ?_
      split
      · exact Blind.bind DbM.column_blind fun _ => Blind.bind DbM.column_blind fun _ =>
          Blind.bind DbM.column_blind fun _ => Blind.pure
      · exact Blind.throw

/-- Reading an entry's properties leaves the database as it is. -/
theorem loadProps_stays (e : Db.EntryRow) : Stays id (loadProps e) := by
  unfold loadProps
  refine Stays.bind (DbM.perform_stays Db.Query.props_reads_only) fun rows => ?_
  refine Stays.bind (Stays.forIn (fun row props => ?_) _ _) fun props => ?_
  · exact Stays.bind DbM.column_stays fun _ => Stays.bind DbM.column_stays fun _ => Stays.pure
  · dsimp only
    split
    · exact Stays.pure
    · refine Stays.bind (DbM.perform_stays Db.Query.folderCounts_reads_only) fun counts => ?_
      split
      · exact Stays.bind DbM.column_stays fun _ => Stays.bind DbM.column_stays fun _ =>
          Stays.bind DbM.column_stays fun _ => Stays.pure
      · exact Stays.throw

/-- What reads the database and leaves it as it is ends as its run says, in the same state. -/
theorem ends_of_stays {x : DbM α} (hx : Stays id x) (p : PropertyDb) :
    Ends x p (fun a p' => p' = p ∧ (x.run.run p).1 = .ok a) fun f p' =>
      p' = p ∧ (x.run.run p).1 = .error f := by
  have h := hx p p rfl
  unfold Ends at h ⊢
  revert h
  rcases x.run.run p with ⟨_ | a, p'⟩ <;> exact fun h => ⟨h, rfl⟩

/-- The bulk read of some tags: each projected from the entry's properties under the limit. -/
theorem getProps_some_ends (e : Db.EntryRow) (ts : List Tag) (p : PropertyDb) :
    Ends (getProps e (some ts)) p
      (fun raw p' => p' = p ∧ ∃ P, ((loadProps e).run.run p).1 = .ok P ∧
        raw = ts.map fun t => project P p.maxInline t true)
      fun f p' => p' = p ∧ ((loadProps e).run.run p).1 = .error f := by
  unfold getProps
  rw [Ends.bind_iff]
  refine (ends_of_stays (loadProps_stays e) p).mono (fun P p' ⟨hp', hP⟩ => ?_) fun _ _ h => h
  subst hp'
  exact ⟨rfl, P, hP, rfl⟩

/-- The bulk read of all properties: each projected under the limit, sorted by id. -/
theorem getProps_none_ends (e : Db.EntryRow) (p : PropertyDb) :
    Ends (getProps e none) p
      (fun raw p' => p' = p ∧ ∃ P, ((loadProps e).run.run p).1 = .ok P ∧
        raw = (P.map fun q => project P p.maxInline q.tag true).mergeSort
          fun a b => decide (a.tag.id ≤ b.tag.id))
      fun f p' => p' = p ∧ ((loadProps e).run.run p).1 = .error f := by
  unfold getProps
  rw [Ends.bind_iff]
  refine (ends_of_stays (loadProps_stays e) p).mono (fun P p' ⟨hp', hP⟩ => ?_) fun _ _ h => h
  subst hp'
  exact ⟨rfl, P, hP, rfl⟩

/-- Opening a stream on a value the entry holds gives the value's bytes in the tag's type,
however long they are. -/
theorem openStream_ends (e : Db.EntryRow) (t : Tag) (p : PropertyDb) {P : List RawProp}
    (hP : ((loadProps e).run.run p).1 = .ok P) (hv : (project P 0 t false).errorCode? = none) :
    Ends (openStream e t) p (fun d p' => p' = p ∧ d = (project P 0 t false).data)
      fun _ _ => False := by
  unfold openStream
  rw [Ends.bind_iff]
  refine (ends_of_stays (loadProps_stays e) p).mono (fun P' p' ⟨hp', hP'⟩ => ?_) fun _ _ h => ?_
  · rw [hP] at hP'
    cases hP'
    subst hp'
    dsimp only
    rw [hv]
    exact ⟨rfl, rfl⟩
  · rw [hP] at h
    cases h.2

end PropertyDb

/-! ### Projections -/

/-- Every text spends at least one byte on each of its characters. -/
theorem Text.length_runes_le (b : Bytes) : (Text.runes b).length ≤ b.length := by
  fun_induction Text.runes b with
  | case1 => simp
  | case2 x rest c w _ ih =>
    simp only [List.length_cons, List.length_drop] at ih ⊢
    omega
  | case3 x rest _ ih =>
    simp only [List.length_cons]
    omega

/-- UTF-16 spends at most four bytes on each byte of the UTF-8 text. -/
theorem Utf16.length_encode_le (t : Text) : (Utf16.encode t).length ≤ 4 * t.bytes.length := by
  have hchar : ∀ c, (Utf16.encodeChar c).length ≤ 2 := by
    intro c
    unfold Utf16.encodeChar
    dsimp only
    split <;> simp
  have hunits : (t.chars.flatMap Utf16.encodeChar).length ≤ 2 * t.chars.length := by
    rw [List.length_flatMap]
    calc (t.chars.map fun c => (Utf16.encodeChar c).length).sum
        ≤ (t.chars.map fun _ => 2).sum := List.sum_le_sum fun c _ => hchar c
      _ = 2 * t.chars.length := by simp [mul_comm]
  have hrunes : t.chars.length ≤ t.bytes.length := Text.length_runes_le t.bytes
  unfold Utf16.encode
  rw [Utf16.length_bytesOf]
  omega

namespace RawProp

/-- The two error properties the database puts in place of a value carry their codes. -/
theorem errorCode_errorProp (id : UInt16) {code : UInt32}
    (hcode : code = ErrorCode.notEnoughMemory ∨ code = ErrorCode.notFound) :
    (errorProp id code).errorCode? = some code := by
  unfold errorProp errorCode?
  rcases hcode with rfl | rfl <;> simp <;> decide

/-- A property whose type is not the error type carries no error code. -/
theorem errorCode_of_type {p : RawProp} (h : p.tag.type ≠ PropType.error) : p.errorCode? = none := by
  unfold errorCode?
  simp [h]

end RawProp

namespace PropertyDb

variable {P : List RawProp} {t : Tag} {L : Nat}

/-- A stored value in a requested type other than unspecified has that type. -/
theorem coerce_type {stored v : RawProp} {want : PropType} (hw : want ≠ PropType.unspecified)
    (h : coerce stored want = some v) : v.tag.type = want := by
  unfold coerce at h
  dsimp only at h
  split_ifs at h with h₁ h₂ h₃
  · cases h
    rcases h₁ with h₁ | h₁
    · exact absurd h₁ hw
    · exact h₁.symm
  · split at h
    · cases h
      simp
    · cases h
  · cases h
    simp

/-- A value the bulk read returns that is not reported too large is the value itself. -/
theorem project_of_fits (h : (project P L t true).errorCode? ≠ some ErrorCode.notEnoughMemory) :
    project P L t true = project P 0 t false := by
  unfold project at h ⊢
  cases hf : P.find? (fun p => decide (p.tag.id = t.id)) with
  | none => rfl
  | some stored =>
    simp only [hf] at h ⊢
    cases hc : coerce stored t.type with
    | none => rfl
    | some v =>
      simp only [hc] at h ⊢
      by_cases hbig : v.data.length > L
      · simp only [hbig, and_self, if_true] at h
        exact absurd (RawProp.errorCode_errorProp _ (.inl rfl)) h
      · simp [hbig]

/-- A value the bulk read reports too large, in a type other than the error type and
unspecified, is a value of that type. -/
theorem project_too_large (ht : t.type ≠ PropType.error) (hu : t.type ≠ PropType.unspecified)
    (h : (project P L t true).errorCode? = some ErrorCode.notEnoughMemory) :
    (project P 0 t false).errorCode? = none ∧ (project P 0 t false).tag.type = t.type := by
  have hnf : (RawProp.errorProp t.id ErrorCode.notFound).errorCode? ≠
      some ErrorCode.notEnoughMemory := by
    rw [RawProp.errorCode_errorProp _ (.inr rfl)]
    decide
  unfold project at h ⊢
  split at h
  · exact absurd h hnf
  · rename_i stored _
    split at h
    · exact absurd h hnf
    · rename_i v hv
      have hvt := coerce_type hu hv
      simp only [Bool.false_eq_true, false_and, if_false]
      exact ⟨RawProp.errorCode_of_type (hvt ▸ ht), hvt⟩

/-- A value read whole is no longer than four times the largest value the entry stores. -/
theorem length_project_le {n : Nat} (hP : ∀ p ∈ P, p.data.length ≤ n) (h4 : 4 ≤ n)
    (ht : t.type ≠ PropType.string8) : (project P 0 t false).data.length ≤ 4 * n := by
  unfold project
  split
  · simp [RawProp.errorProp, Bytes.length_ofNatLE]
    omega
  · rename_i stored hfind
    have hs := hP stored (List.mem_of_find?_eq_some hfind)
    split
    · simp [RawProp.errorProp, Bytes.length_ofNatLE]
      omega
    · rename_i v hv
      simp only [Bool.false_eq_true, false_and, if_false]
      unfold coerce at hv
      dsimp only at hv
      split_ifs at hv with h₁ h₂ h₃
      · cases hv
        omega
      · exact absurd h₂.2 ht
      · cases hv
        have := Utf16.length_encode_le ⟨stored.data⟩
        exact this.trans (by simp only; omega)

end PropertyDb

/-! ### The database as the store of a session -/

namespace Console.SqlBench

variable {L h : Nat} {s : SqlBench}

/-- The session with its database's inline limit set to `L`. -/
def withInline (s : SqlBench) (L : Nat) : SqlBench := { s with db := s.db.withInline L }

/-- What the database holds for the object with handle `h`: the properties of its entry, or why
they cannot be read. -/
def stored (s : SqlBench) (h : Nat) : Except Failure (List RawProp) :=
  match s.objects[h]? with
  | none => .error (Failure.other "no such object")
  | some e => ((PropertyDb.loadProps e).run.run s.db).1

/-- What the database holds does not depend on the inline limit. -/
@[simp]
theorem stored_withInline : (s.withInline L).stored h = s.stored h := by
  unfold stored withInline
  cases s.objects[h]? with
  | none => rfl
  | some e =>
    have hb := PropertyDb.loadProps_blind (L := L) e s.db
    simp only at hb ⊢
    rw [hb]

@[simp]
theorem ends_onDb {x : DbM α} {Q : α → SqlBench → Prop} {E : Failure → SqlBench → Prop} :
    Ends (onDb x) s Q E ↔ Ends x s.db (fun a db => Q a { s with db := db })
      fun f db => E f { s with db := db } := by
  unfold onDb
  simp only [Ends.bind_iff, Ends.get_iff]
  conv_rhs => unfold Ends
  rcases x.run.run s.db with ⟨_ | a, db⟩ <;> rfl

@[simp]
theorem ends_objectAt {Q : Db.EntryRow → SqlBench → Prop} {E : Failure → SqlBench → Prop} :
    Ends (objectAt h) s Q E ↔
      match s.objects[h]? with
      | some e => Q e s
      | none => E (Failure.other "no such object") s := by
  unfold objectAt
  simp only [Ends.bind_iff, Ends.get_iff]
  cases s.objects[h]? <;> rfl

/-- The bulk read of some tags on an opened object: each projected from what the database holds
for it, under the inline limit. -/
theorem getProps_some_ends (h : Nat) (ts : List Tag) :
    Ends (driver.getProps h (some ts)) s
      (fun raw s' => s' = s ∧ ∃ P, s.stored h = .ok P ∧
        raw = ts.map fun t => PropertyDb.project P s.db.maxInline t true)
      fun f s' => s' = s ∧ s.stored h = .error f := by
  show Ends (objectAt h >>= fun e => onDb (PropertyDb.getProps e (some ts))) s _ _
  rw [Ends.bind_iff, ends_objectAt]
  unfold stored
  cases s.objects[h]? with
  | none => exact ⟨rfl, rfl⟩
  | some e =>
    dsimp only
    rw [ends_onDb]
    exact (PropertyDb.getProps_some_ends e ts s.db).mono (fun _ _ ⟨hdb, hP⟩ => by subst hdb; exact ⟨rfl, hP⟩)
      fun _ _ ⟨hdb, hf⟩ => by subst hdb; exact ⟨rfl, hf⟩

/-- The bulk read of all properties of an opened object. -/
theorem getProps_none_ends (h : Nat) :
    Ends (driver.getProps h none) s
      (fun raw s' => s' = s ∧ ∃ P, s.stored h = .ok P ∧
        raw = (P.map fun q => PropertyDb.project P s.db.maxInline q.tag true).mergeSort
          fun a b => decide (a.tag.id ≤ b.tag.id))
      fun f s' => s' = s ∧ s.stored h = .error f := by
  show Ends (objectAt h >>= fun e => onDb (PropertyDb.getProps e none)) s _ _
  rw [Ends.bind_iff, ends_objectAt]
  unfold stored
  cases s.objects[h]? with
  | none => exact ⟨rfl, rfl⟩
  | some e =>
    dsimp only
    rw [ends_onDb]
    exact (PropertyDb.getProps_none_ends e s.db).mono (fun _ _ ⟨hdb, hP⟩ => by subst hdb; exact ⟨rfl, hP⟩)
      fun _ _ ⟨hdb, hf⟩ => by subst hdb; exact ⟨rfl, hf⟩

/-- The session with one more unread stream, over bytes `d`. -/
def addStream (s : SqlBench) (d : Bytes) : SqlBench :=
  { s with rig := { s.rig with streams := s.rig.streams ++ [⟨d, d.length, false, .unread, false⟩] } }

/-- Opening a value the database holds for an object as a stream: a new stream over its bytes,
with the next handle. -/
theorem openStream_ends (h : Nat) (t : Tag) {P : List RawProp} (hP : s.stored h = .ok P)
    (hv : (PropertyDb.project P 0 t false).errorCode? = none) :
    Ends (driver.openStream h t) s
      (fun hd s' => hd = s.rig.streams.length ∧ s' = s.addStream (PropertyDb.project P 0 t false).data)
      fun _ _ => False := by
  show Ends (objectAt h >>= fun e => onDb (PropertyDb.openStream e t) >>= fun data =>
    Script.openStream data data.length false) s _ _
  rw [Ends.bind_iff, ends_objectAt]
  unfold stored at hP
  cases ho : s.objects[h]? with
  | none => rw [ho] at hP; cases hP
  | some e =>
    rw [ho] at hP
    dsimp only
    rw [Ends.bind_iff, ends_onDb]
    refine (PropertyDb.openStream_ends e t s.db hP hv).mono (fun d db ⟨hdb, hd⟩ => ?_) fun _ _ h => h
    subst hdb hd
    exact ⟨rfl, rfl⟩

end Console.SqlBench

end MailStore
