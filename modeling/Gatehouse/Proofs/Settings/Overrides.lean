import Mathlib.Data.List.TakeWhile
import Gatehouse.Settings.Load
import Gatehouse.Proofs.Settings.Sections

/-!
# Gatehouse.Proofs.Settings.Overrides

What a variable of the environment does to a setting that is a text. It changes that setting and no
other (`override_arrives`), but its own text need not arrive: a text that can be read as a truth
value or as a number arrives as that value is written (`Environment.arriving`), so that `007`
becomes `7`. Any other text arrives as it is (`arriving_eq_self`).
-/

namespace Gatehouse

open SettingTree (toText scalarText?)

/-! ## Settings that are texts -/

inductive TextSetting where
  | signingKey
  | issuer
  | audience
  | keyPrefix
  | redisDsn
  | mysqlDsn
  | filter
  | address

namespace TextSetting

def group : TextSetting → String
  | signingKey | issuer | audience => "token"
  | keyPrefix | redisDsn => "store"
  | mysqlDsn => "credentials"
  | filter => "log"
  | address => "http"

def field : TextSetting → String
  | signingKey => "signing_key"
  | issuer => "issuer"
  | audience => "audience"
  | keyPrefix => "key_prefix"
  | redisDsn => "redis_dsn"
  | mysqlDsn => "mysql_dsn"
  | filter => "filter"
  | address => "address"

def key (k : TextSetting) : String := k.group ++ "." ++ k.field

def variableName (k : TextSetting) : String := Environment.nameOf k.key

def write (k : TextSetting) (v : String) (s : Settings) : Settings :=
  match k with
  | signingKey => { s with token := { s.token with signingKey := v } }
  | issuer => { s with token := { s.token with issuer := v } }
  | audience => { s with token := { s.token with audience := v } }
  | keyPrefix => { s with store := { s.store with keyPrefix := v } }
  | redisDsn => { s with store := { s.store with redisDsn := some v } }
  | mysqlDsn => { s with credentials := { s.credentials with mysqlDsn := some v } }
  | filter => { s with log := { s.log with filter := v } }
  | address => { s with http := { s.http with address := v } }

def value? (k : TextSetting) (s : Settings) : Option String :=
  match k with
  | signingKey => some s.token.signingKey
  | issuer => some s.token.issuer
  | audience => some s.token.audience
  | keyPrefix => some s.store.keyPrefix
  | redisDsn => s.store.redisDsn
  | mysqlDsn => s.credentials.mysqlDsn
  | filter => some s.log.filter
  | address => some s.http.address

theorem value?_write (k : TextSetting) (v : String) (s : Settings) :
    k.value? (k.write v s) = some v := by
  cases k <;> rfl

theorem ofKey_key (k : TextSetting) : KeyPath.ofKey k.key = [.name k.group, .name k.field] := by
  cases k <;> decide

theorem key?_variableName (k : TextSetting) : Environment.key? k.variableName = some k.key := by
  cases k <;> decide

end TextSetting

/-! ## Groups with one text changed -/

section Groups

open SettingTree SettingTree.Layout

variable {origin written : Option String} {es : Fields SettingTree} {x : Scalar} {v : String}

theorem toText_scalar (written : Option String) (h : scalarText? x = some v) :
    toText (.scalar written x) = .ok v := by
  simp only [toText, h]

theorem ne_null_of_scalarText? (h : scalarText? x = some v) : x ≠ .null := by
  rintro rfl
  cases h

theorem TokenSettings.ofTree_set {s : TokenSettings} (h : ofTree (.table origin es) = .ok s)
    (hx : scalarText? x = some v) :
    ofTree (.table origin (es.set "signing_key" (.scalar written x))) =
        .ok { s with signingKey := v } ∧
      ofTree (.table origin (es.set "issuer" (.scalar written x))) = .ok { s with issuer := v } ∧
      ofTree (.table origin (es.set "audience" (.scalar written x))) =
        .ok { s with audience := v } := by
  have htext := toText_scalar written hx
  obtain ⟨hkey, hissuer, haudience, haccess, hrefresh, hbytes⟩ := ofTree_eq_ok.mp h
  refine ⟨?_, ?_, ?_⟩ <;>
    simp [ofTree_eq_ok, required_set_self htext, required_set_of_ne, defaulted_set_of_ne, *]

theorem StoreSettings.ofTree_set {s : StoreSettings} (h : ofTree (.table origin es) = .ok s)
    (hx : scalarText? x = some v) :
    ofTree (.table origin (es.set "key_prefix" (.scalar written x))) =
        .ok { s with keyPrefix := v } ∧
      ofTree (.table origin (es.set "redis_dsn" (.scalar written x))) =
        .ok { s with redisDsn := some v } := by
  have htext := toText_scalar written hx
  have hthere := ne_null_of_scalarText? hx
  obtain ⟨hbackend, hdsn, hprefix, hconnect, hresponse⟩ := ofTree_eq_ok.mp h
  refine ⟨?_, ?_⟩ <;>
    simp [ofTree_eq_ok, defaulted_set_self htext, optional_set_self hthere htext,
      required_set_of_ne, defaulted_set_of_ne, optional_set_of_ne, *]

theorem CredentialSettings.ofTree_set {s : CredentialSettings}
    (h : ofTree (.table origin es) = .ok s) (hx : scalarText? x = some v) :
    ofTree (.table origin (es.set "mysql_dsn" (.scalar written x))) =
      .ok { s with mysqlDsn := some v } := by
  have htext := toText_scalar written hx
  obtain ⟨hbackend, hdsn⟩ := ofTree_eq_ok.mp h
  exact ofTree_eq_ok.mpr ⟨(required_set_of_ne (by decide)).trans hbackend,
    optional_set_self (ne_null_of_scalarText? hx) htext⟩

theorem LogSettings.ofTree_set {s : LogSettings} (hx : scalarText? x = some v) :
    ofTree (.table origin (es.set "filter" (.scalar written x))) = .ok { s with filter := v } :=
  ofTree_eq_ok.mpr (required_set_self (toText_scalar written hx))

theorem HttpSettings.ofTree_set {s : HttpSettings} (h : ofTree (.table origin es) = .ok s)
    (hx : scalarText? x = some v) :
    ofTree (.table origin (es.set "address" (.scalar written x))) =
      .ok { s with address := v } := by
  obtain ⟨haddress, htimeout, htls⟩ := ofTree_eq_ok.mp h
  exact ofTree_eq_ok.mpr ⟨required_set_self (toText_scalar written hx),
    (defaulted_set_of_ne (by decide)).trans htimeout, (optional_set_of_ne (by decide)).trans htls⟩

theorem Settings.ofTree_set {s : Settings} (h : ofTree (.table origin es) = .ok s)
    (t : SettingTree) :
    (∀ a, CredentialSettings.ofTree t = .ok a →
      ofTree (.table origin (es.set "credentials" t)) = .ok { s with credentials := a }) ∧
    (∀ a, HttpSettings.ofTree t = .ok a →
      ofTree (.table origin (es.set "http" t)) = .ok { s with http := a }) ∧
    (∀ a, LogSettings.ofTree t = .ok a →
      ofTree (.table origin (es.set "log" t)) = .ok { s with log := a }) ∧
    (∀ a, StoreSettings.ofTree t = .ok a →
      ofTree (.table origin (es.set "store" t)) = .ok { s with store := a }) ∧
    ∀ a, TokenSettings.ofTree t = .ok a →
      ofTree (.table origin (es.set "token" t)) = .ok { s with token := a } := by
  obtain ⟨hcredentials, hhttp, hlog, hstore, htoken⟩ := ofTree_eq_ok.mp h
  refine ⟨?_, ?_, ?_, ?_, ?_⟩ <;> intro a ha <;>
    simp [ofTree_eq_ok, required_set_self ha, required_set_of_ne, *]

def SettingTree.isList : SettingTree → Bool
  | .list .. => true
  | _ => false

/-- A group that is read, and is not written as a list, is written as a table. -/
theorem table_of_required {α : Type} {r : Record} {decode : SettingTree → Except Misfit α}
    {name : String} {a : α} (hscalar : ∀ o v, decode (.scalar o v) ≠ .ok a)
    (h : (named es).required r decode name = .ok a)
    (hlist : ((SettingTree.table origin es).entry name).isList = false) :
    ∃ o fs, (SettingTree.table origin es).entry name = .table o fs ∧
      decode (.table o fs) = .ok a := by
  obtain ⟨t, hget, ht⟩ := of_required h
  have hentry : (SettingTree.table origin es).entry name = t := by
    simp only [entry, entries, hget, Option.getD_some]
  rw [hentry] at hlist ⊢
  cases t with
  | scalar o v => exact absurd ht (hscalar o v)
  | list o items => cases hlist
  | table o fs => exact ⟨o, fs, rfl, ht⟩

/-- A text in the place of another changes that setting and no other. -/
theorem TextSetting.ofTree_write (k : TextSetting) {s : Settings}
    (h : Settings.ofTree (.table origin es) = .ok s)
    (hlist : ((SettingTree.table origin es).entry k.group).isList = false)
    (hx : scalarText? x = some v) :
    Settings.ofTree ((SettingTree.table origin es).setEntry k.group
      (((SettingTree.table origin es).entry k.group).setEntry k.field (.scalar written x))) =
        .ok (k.write v s) := by
  obtain ⟨hcredentials, hhttp, hlog, hstore, htoken⟩ := Settings.ofTree_eq_ok.mp h
  have noScalar {α : Type} {a : α} (m : Misfit) : Except.error m ≠ .ok a := nofun
  cases k with
  | signingKey =>
    obtain ⟨o, fs, hentry, hgroup⟩ := table_of_required (fun _ _ => noScalar _) htoken hlist
    rw [group, hentry]
    exact (Settings.ofTree_set h _).2.2.2.2 _ (TokenSettings.ofTree_set hgroup hx).1
  | issuer =>
    obtain ⟨o, fs, hentry, hgroup⟩ := table_of_required (fun _ _ => noScalar _) htoken hlist
    rw [group, hentry]
    exact (Settings.ofTree_set h _).2.2.2.2 _ (TokenSettings.ofTree_set hgroup hx).2.1
  | audience =>
    obtain ⟨o, fs, hentry, hgroup⟩ := table_of_required (fun _ _ => noScalar _) htoken hlist
    rw [group, hentry]
    exact (Settings.ofTree_set h _).2.2.2.2 _ (TokenSettings.ofTree_set hgroup hx).2.2
  | keyPrefix =>
    obtain ⟨o, fs, hentry, hgroup⟩ := table_of_required (fun _ _ => noScalar _) hstore hlist
    rw [group, hentry]
    exact (Settings.ofTree_set h _).2.2.2.1 _ (StoreSettings.ofTree_set hgroup hx).1
  | redisDsn =>
    obtain ⟨o, fs, hentry, hgroup⟩ := table_of_required (fun _ _ => noScalar _) hstore hlist
    rw [group, hentry]
    exact (Settings.ofTree_set h _).2.2.2.1 _ (StoreSettings.ofTree_set hgroup hx).2
  | mysqlDsn =>
    obtain ⟨o, fs, hentry, hgroup⟩ := table_of_required (fun _ _ => noScalar _) hcredentials hlist
    rw [group, hentry]
    exact (Settings.ofTree_set h _).1 _ (CredentialSettings.ofTree_set hgroup hx)
  | filter =>
    obtain ⟨o, fs, hentry, hgroup⟩ := table_of_required (fun _ _ => noScalar _) hlog hlist
    rw [group, hentry]
    exact (Settings.ofTree_set h _).2.2.1 _ (LogSettings.ofTree_set (s := s.log) hx)
  | address =>
    obtain ⟨o, fs, hentry, hgroup⟩ := table_of_required (fun _ _ => noScalar _) hhttp hlist
    rw [group, hentry]
    exact (Settings.ofTree_set h _).2.1 _ (HttpSettings.ofTree_set hgroup hx)

end Groups

/-! ## The environment laid over a file -/

theorem Fields.set_eq_append {α : Type} {name : String} {a : α} {fs : Fields α}
    (h : fs.get? name = none) : fs.set name a = fs ++ [(name, a)] := by
  induction fs with
  | nil => rfl
  | cons f fs ih =>
    obtain ⟨n, b⟩ := f
    by_cases hn : n = name
    · simp [get?, hn] at h
    · simp only [get?, if_neg hn] at h
      rw [set, if_neg hn, ih h, List.cons_append]

theorem Fields.set_set {α : Type} (name : String) (a b : α) (fs : Fields α) :
    (fs.set name a).set name b = fs.set name b := by
  induction fs with
  | nil => simp [set]
  | cons f fs ih =>
    obtain ⟨n, c⟩ := f
    by_cases hn : n = name
    · simp [set, hn]
    · simp [set, hn, ih]

namespace Environment

theorem get?_read {key : String} {e : Environment} (h : ∀ p ∈ e, key? p.1 ≠ some key) :
    (read e).get? key = none := by
  unfold read
  refine List.foldlRecOn (motive := fun es : Fields SettingTree => es.get? key = none) e _ rfl ?_
  rintro es hes ⟨name, v⟩ hmem
  have hp := h (name, v) hmem
  dsimp only at hp ⊢
  cases hname : key? name with
  | none => exact hes
  | some other =>
    have hne : key ≠ other := by
      rintro rfl
      exact hp hname
    dsimp only
    rw [Fields.get?_set_of_ne hne, hes]

theorem read_append {key name : String} {e : Environment} (h : ∀ p ∈ e, key? p.1 ≠ some key)
    (hname : key? name = some key) (v : String) :
    read (e ++ [(name, v)]) = read e ++ [(key, .scalar (some origin) (scalar v))] := by
  rw [← Fields.set_eq_append (get?_read h), read, List.foldl_append]
  simp only [List.foldl_cons, List.foldl_nil, hname]
  rfl

/-- The text that comes of the value of a variable. -/
def arriving (v : String) : String := (scalarText? (scalar v)).getD v

theorem scalarText?_scalar (v : String) : scalarText? (scalar v) = some (arriving v) := by
  rw [arriving]
  cases hx : scalar v with
  | null =>
    unfold scalar at hx
    dsimp only at hx
    split at hx
    · cases hx
    · split at hx
      · cases hx
      · split at hx
        · cases hx
        · split at hx <;> cases hx
  | _ => rfl

end Environment

namespace Settings

def tree? (folder : Folder) (e : Environment) (path : Option String) : Option SettingTree :=
  (folder.find? (path.getD defaultPath)).bind fun file =>
    file.read?.map fun es => [es, e.read].foldl withSource .empty

theorem load_eq_ok {folder : Folder} {e : Environment} {path : Option String} {s : Settings} :
    load folder e path = .ok s ↔ ∃ t, tree? folder e path = some t ∧ ofTree t = .ok s := by
  cases hfind : folder.find? (path.getD defaultPath) with
  | none => simp [load, tree?, hfind]
  | some file =>
    cases hread : file.read? with
    | none => simp [load, ofFile, tree?, hfind, hread]
    | some es =>
      simp only [load, ofFile, tree?, hfind, hread, Option.bind_some, Option.map_some,
        Option.some.injEq, exists_eq_left']
      cases ofTree ([es, e.read].foldl withSource .empty) <;> simp [Except.mapError]

theorem exists_table_assigned (base : SettingTree) (key : String) (t : SettingTree) :
    ∃ origin es, base.assigned key t = .table origin es := by
  obtain ⟨name, path, hkey⟩ : ∃ name path, KeyPath.ofKey key = .name name :: path := by
    rw [KeyPath.ofKey]
    cases hpath : KeyPath.read? key with
    | none => exact ⟨_, _, rfl⟩
    | some segments =>
      obtain ⟨⟨name, rest⟩, -, hrest⟩ := Option.bind_eq_some_iff.mp hpath
      obtain ⟨path, -, rfl⟩ := Option.map_eq_some_iff.mp hrest
      exact ⟨name, path, rfl⟩
  rw [SettingTree.assigned, hkey]
  exact ⟨_, _, rfl⟩

/-- Whatever is set by a source, at its root the tree stays a table. -/
theorem exists_table_withSource (es : Fields SettingTree) {t : SettingTree}
    (ht : ∃ origin fs, t = .table origin fs) : ∃ origin fs, withSource t es = .table origin fs := by
  induction es generalizing t with
  | nil => exact ht
  | cons p es ih => exact ih (exists_table_assigned t p.1 p.2)

theorem exists_table_of_tree? {folder : Folder} {e : Environment} {path : Option String}
    {t : SettingTree} (h : tree? folder e path = some t) : ∃ origin fs, t = .table origin fs := by
  obtain ⟨file, -, hfile⟩ := Option.bind_eq_some_iff.mp h
  obtain ⟨es, -, rfl⟩ := Option.map_eq_some_iff.mp hfile
  exact exists_table_withSource e.read (exists_table_withSource es ⟨_, _, rfl⟩)

def overridden (k : TextSetting) (v : String) (t : SettingTree) : SettingTree :=
  t.setEntry k.group ((t.entry k.group).setEntry k.field
    (.scalar (some Environment.origin) (Environment.scalar v)))

theorem tree?_append {k : TextSetting} {e : Environment}
    (he : ∀ p ∈ e, Environment.key? p.1 ≠ some k.key) (folder : Folder) (path : Option String)
    (v : String) : tree? folder (e ++ [(k.variableName, v)]) path =
      (tree? folder e path).map (overridden k v) := by
  simp only [tree?, Environment.read_append he k.key?_variableName]
  cases folder.find? (path.getD defaultPath) with
  | none => rfl
  | some file =>
    simp only [Option.bind_some, Option.map_map]
    congr 1
    funext es
    simp only [Function.comp_apply, List.foldl_cons, List.foldl_nil]
    rw [withSource, List.foldl_append, List.foldl_cons, List.foldl_nil, SettingTree.assigned,
      k.ofKey_key]
    rfl

theorem overridden_overridden (k : TextSetting) (u v : String) (t : SettingTree) :
    overridden k v (overridden k u t) = overridden k v t := by
  simp only [overridden, SettingTree.setEntry, SettingTree.entry, SettingTree.entries,
    SettingTree.tableOrigin, Fields.get?_set_self, Fields.set_set, Option.getD_some]

end Settings

/-! ## Texts that arrive as they are -/

namespace Environment

def isNumeral (c : Char) : Bool := c.isDigit || c ∈ ['+', '-', '.', 'e', 'E']

def words : List String := ["true", "false", "inf", "infinity", "nan"]

/-- Neither a text nor what follows its sign is one of the words. -/
def IsWordless (v : String) : Prop :=
  ∀ cs, v.toList = cs ∨ v.toList = '+' :: cs ∨ v.toList = '-' :: cs →
    String.ofList (cs.map Char.toLower) ∉ words

def numberWords : List String := ["inf", "infinity", "nan"]

/-- Neither a text nor what follows its sign is the name of a number. -/
def IsNameless (v : String) : Prop :=
  ∀ cs, v.toList = cs ∨ v.toList = '+' :: cs ∨ v.toList = '-' :: cs →
    String.ofList (cs.map Char.toLower) ∉ numberWords

theorem IsWordless.nameless {v : String} (h : IsWordless v) : IsNameless v := by
  have hsubset : numberWords ⊆ words := by decide
  exact fun cs hcs hmem => h cs hcs (hsubset hmem)

theorem isNumeral_of_nat? {cs : List Char} {n : Nat} (h : Decimal.nat? cs = some n) :
    ∀ c ∈ cs, isNumeral c = true := by
  intro c hc
  unfold Decimal.nat? at h
  split at h
  · rename_i hdigits
    have hdigit := List.all_eq_true.mp hdigits.2 c hc
    rw [isNumeral, hdigit, Bool.true_or]
  · cases h

theorem isNumeral_of_int? {cs : List Char} {i : Int} (h : Decimal.int? cs = some i) :
    ∀ c ∈ cs, isNumeral c = true := by
  have digits {cs : List Char} (hcs : Decimal.nat? cs ≠ none) : ∀ c ∈ cs, isNumeral c = true := by
    obtain ⟨n, hn⟩ := Option.ne_none_iff_exists'.mp hcs
    exact isNumeral_of_nat? hn
  unfold Decimal.int? at h
  split at h
  · refine List.forall_mem_cons.mpr ⟨rfl, digits fun hnone => ?_⟩
    rw [hnone] at h
    cases h
  · refine List.forall_mem_cons.mpr ⟨rfl, digits fun hnone => ?_⟩
    rw [hnone] at h
    cases h
  · refine digits fun hnone => ?_
    rw [hnone] at h
    cases h

theorem isNumeral_of_exponent? {cs : List Char} {i : Int} (h : Binary64.exponent? cs = some i) :
    ∀ c ∈ cs, isNumeral c = true := by
  cases cs with
  | nil => nofun
  | cons e cs =>
    rw [Binary64.exponent?] at h
    split at h
    · rename_i he
      refine List.forall_mem_cons.mpr ⟨?_, isNumeral_of_int? h⟩
      rcases he with rfl | rfl <;> rfl
    · cases h

theorem isNumeral_of_spanDigits {cs : List Char}
    (h : ∀ c ∈ (Binary64.spanDigits cs).2, isNumeral c = true) :
    ∀ c ∈ cs, isNumeral c = true := by
  intro c hc
  rw [← List.takeWhile_append_dropWhile (p := Char.isDigit) (l := cs), List.mem_append] at hc
  rcases hc with hc | hc
  · have hdigit := List.mem_takeWhile_imp hc
    rw [isNumeral, hdigit, Bool.true_or]
  · exact h c hc

theorem isNumeral_of_ofUnsigned? {negative : Bool} {cs : List Char} {x : Binary64}
    (h : Binary64.ofUnsigned? negative cs = some x) : ∀ c ∈ cs, isNumeral c = true := by
  have exponent {e : List Char} {f : Int → Binary64}
      (h : (Binary64.exponent? e).map f = some x) : ∀ c ∈ e, isNumeral c = true := by
    obtain ⟨i, hi, -⟩ := Option.map_eq_some_iff.mp h
    exact isNumeral_of_exponent? hi
  refine isNumeral_of_spanDigits ?_
  simp only [Binary64.ofUnsigned?] at h
  split_ifs at h
  have hafter := exponent h
  split at hafter
  · rename_i rest hrest
    rw [hrest]
    exact List.forall_mem_cons.mpr ⟨rfl, isNumeral_of_spanDigits hafter⟩
  · exact hafter

theorem named?_eq_none {negative : Bool} {cs : List Char}
    (h : String.ofList (cs.map Char.toLower) ∉ numberWords) :
    Binary64.named? negative cs = none := by
  simp only [numberWords, List.mem_cons, List.not_mem_nil, or_false, not_or] at h
  simp only [Binary64.named?, h, or_self, if_false]

theorem signed?_eq_none {negative : Bool} {cs : List Char}
    (hodd : ∃ c ∈ cs, isNumeral c = false)
    (hword : String.ofList (cs.map Char.toLower) ∉ numberWords) :
    Binary64.signed? negative cs = none := by
  cases hnumber : Binary64.ofUnsigned? negative cs with
  | none => simp only [Binary64.signed?, hnumber, named?_eq_none hword]
  | some x =>
    obtain ⟨c, hc, hfalse⟩ := hodd
    rw [isNumeral_of_ofUnsigned? hnumber c hc] at hfalse
    cases hfalse

theorem read?_eq_none {v : String} (hodd : ∃ c ∈ v.toList, isNumeral c = false)
    (hword : IsNameless v) : Binary64.read? v.toList = none := by
  obtain ⟨c, hc, hfalse⟩ := hodd
  unfold Binary64.read?
  split
  all_goals rename_i hv
  · rw [hv] at hc
    refine signed?_eq_none ⟨c, ?_, hfalse⟩ (hword _ (.inr (.inr hv)))
    rcases List.mem_cons.mp hc with rfl | hc
    · cases hfalse
    · exact hc
  · rw [hv] at hc
    refine signed?_eq_none ⟨c, ?_, hfalse⟩ (hword _ (.inr (.inl hv)))
    rcases List.mem_cons.mp hc with rfl | hc
    · cases hfalse
    · exact hc
  · exact signed?_eq_none ⟨c, hc, hfalse⟩ (hword _ (.inl rfl))

theorem scalar_eq_text {v : String} (hodd : ∃ c ∈ v.toList, isNumeral c = false)
    (hword : IsWordless v) : scalar v = .text v := by
  have hplain : String.ofList (v.toList.map Char.toLower) ∉ words := hword _ (.inl rfl)
  have hne {word : String} (hmem : word ∈ words) : v.toList.map Char.toLower ≠ word.toList := by
    intro heq
    rw [heq, String.ofList_toList] at hplain
    exact hplain hmem
  have hinteger : Decimal.int64? v = none := by
    cases hint : Decimal.int64? v with
    | none => rfl
    | some i =>
      obtain ⟨c, hc, hfalse⟩ := hodd
      rw [isNumeral_of_int? (Option.filter_eq_some_iff.mp hint).1 c hc] at hfalse
      cases hfalse
  simp only [scalar, if_neg (@hne "true" (by decide)),
    if_neg (@hne "false" (by decide)), hinteger, read?_eq_none hodd hword.nameless]

theorem toLower_of_isDigit {c : Char} (h : c.isDigit = true) : c.toLower = c := by
  have hdigit : c.val ≤ '9'.val := by
    rw [Char.isDigit, Bool.and_eq_true, decide_eq_true_eq, decide_eq_true_eq] at h
    exact h.2
  refine dif_neg ?_
  rintro ⟨hletter, -⟩
  exact absurd (UInt32.le_trans hletter hdigit) (by decide)

theorem isNumeral_toLower {c : Char} (h : isNumeral c = true) : isNumeral c.toLower = true := by
  rcases (Bool.or_eq_true _ _).mp h with hdigit | hsign
  · rwa [toLower_of_isDigit hdigit]
  · have hall : (['+', '-', '.', 'e', 'E'].all fun d => isNumeral d.toLower) = true := by decide
    exact List.all_eq_true.mp hall c (of_decide_eq_true hsign)

/-- A whole number arrives in plain digits. -/
theorem arriving_integer {v : String} {i : Int} (h : Decimal.int64? v = some i) :
    arriving v = toString i := by
  have hnumerals := isNumeral_of_int? (Option.filter_eq_some_iff.mp h).1
  have hne {word : List Char} (hword : ∃ c ∈ word, isNumeral c = false) :
      v.toList.map Char.toLower ≠ word := by
    rintro rfl
    obtain ⟨d, hd, hfalse⟩ := hword
    obtain ⟨c, hc, rfl⟩ := List.mem_map.mp hd
    rw [isNumeral_toLower (hnumerals c hc)] at hfalse
    cases hfalse
  have hscalar : scalar v = .integer i := by
    simp only [scalar, if_neg (@hne "true".toList ⟨'t', by decide, by decide⟩),
      if_neg (@hne "false".toList ⟨'f', by decide, by decide⟩), h]
  rw [arriving, hscalar]
  rfl

theorem read?_eq_none_of_flag {v : String} {b : Bool}
    (h : v.toList.map Char.toLower = (toString b).toList) : Binary64.read? v.toList = none := by
  have hodd : ∃ c ∈ (toString b).toList, isNumeral c = false := by
    cases b with
    | false => exact ⟨'f', by decide, rfl⟩
    | true => exact ⟨'t', by decide, rfl⟩
  obtain ⟨d, hd, hfalse⟩ := hodd
  rw [← h] at hd
  obtain ⟨c, hc, rfl⟩ := List.mem_map.mp hd
  have hnumeral : isNumeral c = false := by
    by_contra hne
    rw [isNumeral_toLower (eq_true_of_ne_false hne)] at hfalse
    cases hfalse
  refine read?_eq_none ⟨c, hc, hnumeral⟩ ?_
  rintro cs (hcs | hcs | hcs)
  · rw [← hcs, h, String.ofList_toList]
    cases b <;> decide
  all_goals
    rw [hcs] at h
    cases b <;> cases h

/-- A truth value arrives in small letters. -/
theorem arriving_flag {v : String} {b : Bool}
    (h : v.toList.map Char.toLower = (toString b).toList) : arriving v = toString b := by
  have hscalar : scalar v = .flag b := by
    cases b with
    | true => exact if_pos h
    | false =>
      have hne : v.toList.map Char.toLower ≠ "true".toList := by
        rw [h]
        decide
      rw [scalar, if_neg hne]
      exact if_pos h
  rw [arriving, hscalar]
  cases b <;> rfl

/-- A number that is not whole, or is too large for one of sixty-four bits, arrives in the shortest
digits that write it. -/
theorem arriving_float {v : String} {x : Binary64} (hwhole : Decimal.int64? v = none)
    (h : Binary64.read? v.toList = some x) : arriving v = x.text := by
  have hne (b : Bool) : v.toList.map Char.toLower ≠ (toString b).toList := by
    intro hflag
    rw [read?_eq_none_of_flag hflag] at h
    cases h
  have htrue : v.toList.map Char.toLower ≠ "true".toList := hne true
  have hfalse : v.toList.map Char.toLower ≠ "false".toList := hne false
  have hscalar : scalar v = .float x := by
    simp only [scalar, if_neg htrue, if_neg hfalse, hwhole, h]
  rw [arriving, hscalar]
  rfl

/-- A text with a character that no number is written with arrives as it is, unless it is a word. -/
theorem arriving_eq_self {v : String} (hodd : ∃ c ∈ v.toList, isNumeral c = false)
    (hword : IsWordless v) : arriving v = v := by
  rw [arriving, scalar_eq_text hodd hword]
  rfl

end Environment

/-! ## Overrides -/

namespace Settings

variable {folder : Folder} {e : Environment} {path : Option String} {k : TextSetting}

/-- A variable that is set over settings that can be read changes one of them. -/
theorem load_append (he : ∀ p ∈ e, Environment.key? p.1 ≠ some k.key) (v : String) {s : Settings}
    (h : load folder e path = .ok s)
    (hlist : ∀ t, tree? folder e path = some t → (t.entry k.group).isList = false) :
    load folder (e ++ [(k.variableName, v)]) path = .ok (k.write (Environment.arriving v) s) := by
  obtain ⟨t, htree, hread⟩ := load_eq_ok.mp h
  obtain ⟨origin, es, rfl⟩ := exists_table_of_tree? htree
  refine load_eq_ok.mpr ⟨overridden k v (.table origin es), ?_, ?_⟩
  · rw [tree?_append he, htree]
    rfl
  · exact k.ofTree_write hread (hlist _ htree) (Environment.scalarText?_scalar v)

/-- Two values of one variable lead to settings that differ in one place. -/
theorem load_instead (he : ∀ p ∈ e, Environment.key? p.1 ≠ some k.key) {u : String} (v : String)
    {s : Settings} (h : load folder (e ++ [(k.variableName, u)]) path = .ok s) :
    load folder (e ++ [(k.variableName, v)]) path = .ok (k.write (Environment.arriving v) s) := by
  obtain ⟨t', htree', hread⟩ := load_eq_ok.mp h
  rw [tree?_append he] at htree'
  obtain ⟨t, htree, rfl⟩ := Option.map_eq_some_iff.mp htree'
  obtain ⟨origin, es, hes⟩ : ∃ origin es, overridden k u t = .table origin es := ⟨_, _, rfl⟩
  have hentry : (overridden k u t).entry k.group = (t.entry k.group).setEntry k.field
      (.scalar (some Environment.origin) (Environment.scalar u)) := by
    simp only [overridden, SettingTree.entry, SettingTree.setEntry, SettingTree.entries,
      Fields.get?_set_self, Option.getD_some]
  have hlist : ((overridden k u t).entry k.group).isList = false := by
    rw [hentry]
    rfl
  refine load_eq_ok.mpr ⟨overridden k v t, ?_, ?_⟩
  · rw [tree?_append he, htree]
    rfl
  · rw [← overridden_overridden k u v t]
    rw [hes] at hread hlist
    rw [hes]
    exact k.ofTree_write hread hlist (Environment.scalarText?_scalar v)

/-- A variable changes the setting that it is named for and no other, in settings that can be read
without it, and in those that can be read with any other value. What arrives is its text, or the
plain form of the number that its text writes. -/
theorem override_arrives (k : TextSetting) (folder : Folder) (path : Option String)
    {e : Environment} (he : ∀ p ∈ e, Environment.key? p.1 ≠ some k.key) (v : String) :
    (∀ s, load folder e path = .ok s →
      (∀ t, tree? folder e path = some t → (t.entry k.group).isList = false) →
      load folder (e ++ [(k.variableName, v)]) path = .ok (k.write (Environment.arriving v) s)) ∧
    (∀ u s, load folder (e ++ [(k.variableName, u)]) path = .ok s →
      load folder (e ++ [(k.variableName, v)]) path = .ok (k.write (Environment.arriving v) s)) ∧
    (∀ s, load folder (e ++ [(k.variableName, v)]) path = .ok s →
      k.value? s = some (Environment.arriving v) ∧
      (k = .signingKey →
        s.token.config.access.signingKey = Utf8.encode (Environment.arriving v))) ∧
    ((∃ c ∈ v.toList, Environment.isNumeral c = false) → Environment.IsWordless v →
      Environment.arriving v = v) ∧
    ∀ i, Decimal.int64? v = some i → Environment.arriving v = toString i := by
  refine ⟨fun s => load_append he v, fun u s => load_instead he v, ?_,
    Environment.arriving_eq_self, fun i => Environment.arriving_integer⟩
  intro s h
  have hvalue : k.value? s = some (Environment.arriving v) := by
    have hsame := (load_instead he v h).symm.trans h
    rw [← Except.ok.inj hsame, k.value?_write]
  refine ⟨hvalue, ?_⟩
  rintro rfl
  exact congrArg Utf8.encode (Option.some.inj hvalue)

def sparse : Folder where
  files := [(["sparse.toml"], "credentials.backend=\"\"\nhttp.address=\"\"\nlog.filter=\"\"\n" ++
    "store.backend=\"\"\n[token]\nsigning_key=\"\"\nissuer=\"\"\naudience=\"\"\n" ++
    "access_ttl_secs=1\nrefresh_ttl_secs=1")]

theorem sparse_reads : ∃ s, load sparse [] (some "sparse.toml") = .ok s ∧
    ∀ t, tree? sparse [] (some "sparse.toml") = some t → (t.entry "token").isList = false := by
  have hread : (tree? sparse [] (some "sparse.toml")).any (fun t =>
      (ofTree t).toOption.isSome && !(t.entry "token").isList) = true := by decide +kernel
  cases htree : tree? sparse [] (some "sparse.toml") with
  | none =>
    rw [htree] at hread
    cases hread
  | some t =>
    rw [htree, Option.any_some, Bool.and_eq_true] at hread
    obtain ⟨hsome, hlist⟩ := hread
    cases ht : ofTree t with
    | error m =>
      rw [ht] at hsome
      cases hsome
    | ok s =>
      refine ⟨s, load_eq_ok.mpr ⟨t, htree, ht⟩, ?_⟩
      rintro t ⟨⟩
      simpa using hlist

theorem override_arrives_issuer : ∃ s,
    load sparse [("TURNSTILE__TOKEN__ISSUER", "desk")] (some "sparse.toml") = .ok s ∧
      s.token.issuer = "desk" := by
  obtain ⟨s, hload, hlist⟩ := sparse_reads
  obtain ⟨hover, -, -, hverbatim, -⟩ :=
    override_arrives .issuer sparse (some "sparse.toml") (e := []) (by simp) "desk"
  have hword : Environment.IsWordless "desk" := by
    rintro cs (rfl | h | h)
    · decide
    · cases h
    · cases h
  have hdesk := hverbatim ⟨'d', by decide, by decide⟩ hword
  refine ⟨_, hover s hload hlist, ?_⟩
  rw [hdesk]
  rfl

/-- A signing key of thirty-two digits becomes one of two: the settings with the text that the
variable has are not those that are read. -/
theorem signing_key_loses_zeros :
    let v := "00000000000000000000000000000042"
    ∃ s, load sparse [] (some "sparse.toml") = .ok s ∧
      load sparse [("TURNSTILE__TOKEN__SIGNING_KEY", v)] (some "sparse.toml") =
        .ok (TextSetting.signingKey.write "42" s) ∧
      load sparse [("TURNSTILE__TOKEN__SIGNING_KEY", v)] (some "sparse.toml") ≠
        .ok (TextSetting.signingKey.write v s) := by
  intro v
  obtain ⟨s, hload, hlist⟩ := sparse_reads
  have hover := load_append (k := .signingKey) (e := []) (by simp) v hload hlist
  have harrives : Environment.arriving v = "42" :=
    Environment.arriving_integer (i := 42) (by decide)
  rw [harrives] at hover
  refine ⟨s, hload, hover, ?_⟩
  intro hverbatim
  have hkeys : "42" = v := congrArg (fun s => s.token.signingKey)
    (Except.ok.inj (hover.symm.trans hverbatim))
  exact absurd hkeys (by decide)

end Settings
end Gatehouse
