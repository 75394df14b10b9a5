import DiveLink.Json.Schema
import DiveLink.Proofs.Lexemes
import DiveLink.Proofs.Timestamps

/-!
# A record is read as it was printed

1. `Tree.laid` is the text of a value in either of the two prints, `Tree.laid_object` the text of an
   object as one row of members with gaps between them.
2. `Runs` is a repetition that ended, told without a bound; `loop_of_runs` finds it.
3. `nextKey_member` and `nextKey_end`: the reader goes from member to member and to the end.
4. `Kind.read_laid`: a value of every kind is read behind any gap.
5. `Draft.upTo` is what has been read after so many members; the next one brings it one further
   (`Draft.put_upTo`).
6. `Schema.read_laid`: a record is read from its object, member after member. `Record.read_text` is
   the same for whole texts.
-/

namespace DiveLink.Json

/-! ## §1 Two prints -/

namespace Tree

/-- The text of a value in one of the two prints, the value being `level` brackets deep. -/
def laid (pretty : Bool) (level : Nat) (value : Tree) : List Char :=
  if pretty then value.indented level else value.compact

/-- What stands before a key or a closing brace. -/
def lineGap (pretty : Bool) (level : Nat) : List Char := if pretty then newLine level else []

/-- What stands between a colon and a value. -/
def valueGap (pretty : Bool) : List Char := if pretty then [' '] else []

/-- What stands between a member and the one before it. -/
def separator (first : Bool) : List Char := if first then [] else [',']

/-- The members of an object, without its braces. -/
def laidMembers (pretty : Bool) (level : Nat) : Bool → List (String × Tree) → List Char
  | _, [] => []
  | first, (name, value) :: members =>
    separator first ++ (lineGap pretty level ++ (quoted name ++ ':' :: (valueGap pretty ++
      (laid pretty level value ++ laidMembers pretty level false members))))

theorem compactMembers_eq (level : Nat) (members : List (String × Tree)) :
    compactMembers members = laidMembers false level false members := by
  induction members with
  | nil => rfl
  | cons member members ih =>
    obtain ⟨name, value⟩ := member
    simp [compactMembers, laidMembers, separator, lineGap, valueGap, laid, ih]

theorem indentedMembers_eq (level : Nat) (members : List (String × Tree)) :
    indentedMembers level members = laidMembers true level false members := by
  induction members with
  | nil => rfl
  | cons member members ih =>
    obtain ⟨name, value⟩ := member
    simp [indentedMembers, laidMembers, separator, lineGap, valueGap, laid, ih]

/-- Both prints of an object have its members in a row between the braces. -/
theorem laid_object (pretty : Bool) (level : Nat) {members : List (String × Tree)}
    (hsome : members ≠ []) :
    laid pretty level (.object members) =
      '\x7b' :: (laidMembers pretty (level + 1) true members ++
        (lineGap pretty level ++ ['\x7d'])) := by
  -- an object without members would be two braces, with nothing between them in either print
  obtain ⟨⟨name, value⟩, others, rfl⟩ := List.exists_cons_of_ne_nil hsome
  cases pretty with
  | false =>
    simp [laid, compact, compactMembers_eq (level + 1), laidMembers, separator, lineGap, valueGap]
  | true =>
    simp [laid, indented, indentedMembers_eq, laidMembers, separator, lineGap, valueGap]

@[simp] theorem laid_null (pretty : Bool) (level : Nat) :
    laid pretty level null = "null".toList := by
  cases pretty <;> rfl

@[simp] theorem laid_bool (pretty : Bool) (level : Nat) (b : Bool) :
    laid pretty level (bool b) = boolWord b := by
  cases pretty <;> rfl

@[simp] theorem laid_number (pretty : Bool) (level : Nat) (n : Number) :
    laid pretty level (number n) = n.text := by
  cases pretty <;> rfl

@[simp] theorem laid_string (pretty : Bool) (level : Nat) (s : String) :
    laid pretty level (string s) = quoted s := by
  cases pretty <;> rfl

theorem isGap_lineGap (pretty : Bool) (level : Nat) : IsGap (lineGap pretty level) := by
  cases pretty with
  | false => exact isGap_nil
  | true =>
    intro c hc
    rcases List.mem_cons.mp hc with rfl | hblank
    · rfl
    · rw [List.eq_of_mem_replicate hblank]
      rfl

theorem isGap_valueGap (pretty : Bool) : IsGap (valueGap pretty) := by
  cases pretty <;> simp [valueGap, IsGap, isGap]

/-- Behind a value comes another member or the end of the object. -/
theorem follows_laidMembers (pretty : Bool) (level outer : Nat) (members : List (String × Tree))
    (rest : List Char) :
    Follows (laidMembers pretty level false members ++
      (lineGap pretty outer ++ '\x7d' :: rest)) := by
  cases members with
  | nil => cases pretty <;> simp [laidMembers, lineGap, newLine, Follows]
  | cons member members => simp [laidMembers, separator, Follows]

end Tree

/-! ## §2 Repetitions that end -/

/-- The step, repeated from the first state and text, ends with the second ones; on the way text is
used up. -/
inductive Runs {σ : Type} (step : σ → List Char → Except Failure (Front (σ × Bool))) :
    σ → List Char → σ → List Char → Prop where
  | stop {state state' : σ} {text rest : List Char}
      (hstep : step state text = .ok ((state', false), rest)) : Runs step state text state' rest
  | again {state state' final : σ} {text rest behind : List Char}
      (hstep : step state text = .ok ((state', true), rest)) (hshorter : rest.length < text.length)
      (hruns : Runs step state' rest final behind) : Runs step state text final behind

theorem loopAtMost_of_runs {σ : Type} {step : σ → List Char → Except Failure (Front (σ × Bool))}
    {state final : σ} {text behind : List Char} (hruns : Runs step state text final behind)
    {n : Nat} (hn : text.length < n) : loopAtMost step n state text = .ok (final, behind) := by
  -- on the steps; each uses up text, so the bound on the rest is smaller
  induction hruns generalizing n with
  | stop hstep =>
    obtain ⟨n, rfl⟩ := Nat.exists_eq_succ_of_ne_zero (by omega : n ≠ 0)
    simp [loopAtMost, hstep]
  | again hstep hshorter _ ih =>
    obtain ⟨n, rfl⟩ := Nat.exists_eq_succ_of_ne_zero (by omega : n ≠ 0)
    simp only [loopAtMost, hstep, if_true]
    exact ih (by omega)

/-- The length of the text bounds the number of steps, so a repetition that ends is found. -/
theorem loop_of_runs {σ : Type} {step : σ → List Char → Except Failure (Front (σ × Bool))}
    {state final : σ} {text behind : List Char} (hruns : Runs step state text final behind) :
    loop step state text = .ok (final, behind) := by
  cases hruns with
  | stop hstep => simp [loop, hstep]
  | again hstep _ hruns =>
    simp only [loop, hstep, if_true]
    exact loopAtMost_of_runs hruns (Nat.lt_succ_self _)

/-! ## §3 Keys -/

/-- The next member of an object starts with its key. -/
theorem nextKey_member (first : Bool) {gap : List Char} (hgap : IsGap gap) (name : String)
    (rest : List Char) :
    nextKey first (Tree.separator first ++ (gap ++ (quoted name ++ rest))) =
      .ok (some name, rest) := by
  have hquote : nextQuote first (Tree.separator first ++ (gap ++ (quoted name ++ rest))) =
      .ok (true, name.toList.flatMap escaped ++ '"' :: rest) := by
    rw [quoted_append]
    -- a comma stands before every member but the first
    cases first with
    | true => simp [nextQuote, Tree.separator, afterGap_append hgap (c := '"') rfl]
    | false =>
      have hcomma (text : List Char) : afterGap (',' :: text) = ',' :: text := rfl
      simp [nextQuote, Tree.separator, hcomma, afterGap_append hgap (c := '"') rfl]
  simp only [nextKey, hquote, ok_bind, string_quoted]
  rfl

/-- Behind the last member there is no key. -/
theorem nextKey_end (first : Bool) {gap : List Char} (hgap : IsGap gap) (rest : List Char) :
    nextKey first (gap ++ '\x7d' :: rest) = .ok (none, '\x7d' :: rest) := by
  simp only [nextKey, nextQuote, afterGap_append hgap (c := '\x7d') rfl, if_true]
  rfl

theorem colon_cons (rest : List Char) : colon (':' :: rest) = .ok rest := rfl

/-- A body that was read up to the closing brace was read. -/
theorem closed_endObject {α : Type} (a : α) (rest : List Char) :
    closed endObject (.ok (a, '\x7d' :: rest)) = .ok (a, rest) := rfl

/-! ## §4 Values -/

theorem isGap_of_isDigit {c : Char} (hc : c.isDigit = true) : isGap c = false := by
  simp only [isGap, Bool.or_eq_false_iff, beq_eq_false_iff_ne]
  refine ⟨⟨⟨?_, ?_⟩, ?_⟩, ?_⟩ <;> rintro rfl <;> exact absurd hc (by decide)

theorem numberAs_digits {α : Type} (wanted : String) {convert : Number → Except Complaint α} {a : α}
    {gap : List Char} (hgap : IsGap gap) {n : Nat} (hn : n < UInt64.size)
    (hconvert : convert (.natural n) = .ok a) {rest : List Char} (hrest : Follows rest) :
    numberAs wanted convert (gap ++ (Decimal.digits n ++ rest)) = .ok (a, rest) := by
  -- the first character behind the gap is a digit, and so the reader takes a number
  obtain ⟨d, ds, hcons⟩ := List.exists_cons_of_ne_nil (Decimal.digits_ne_nil n)
  have hdigit : d.isDigit = true := Decimal.isDigit_of_mem_digits (n := n) (by simp [hcons])
  have hnumber := number_digits hn hrest
  rw [hcons, List.cons_append] at hnumber ⊢
  rw [numberAs, afterGap_append hgap (isGap_of_isDigit hdigit)]
  simp only [hdigit, or_true, if_true, hnumber, ok_bind, hconvert]
  rfl

theorem stringAs_quoted {α : Type} (wanted : String) {convert : String → Except Complaint α} {a : α}
    {gap : List Char} (hgap : IsGap gap) {s : String} (hconvert : convert s = .ok a)
    (rest : List Char) :
    stringAs wanted convert (gap ++ (quoted s ++ rest)) = .ok (a, rest) := by
  rw [quoted_append, stringAs, afterGap_append hgap (c := '"') rfl]
  simp only [if_true, string_quoted, ok_bind, hconvert]
  rfl

theorem flagAt_boolWord (wanted : String) {gap : List Char} (hgap : IsGap gap) (b : Bool)
    (rest : List Char) : flagAt wanted (gap ++ (boolWord b ++ rest)) = .ok (b, rest) := by
  cases b with
  | false =>
    change flagAt wanted (gap ++ 'f' :: ("alse".toList ++ rest)) = _
    rw [flagAt, afterGap_append hgap (c := 'f') rfl]
    rfl
  | true =>
    change flagAt wanted (gap ++ 't' :: ("rue".toList ++ rest)) = _
    rw [flagAt, afterGap_append hgap (c := 't') rfl]
    rfl

theorem nameAs_quoted {α : Type} {convert : String → Except Complaint α} {a : α}
    {gap : List Char} (hgap : IsGap gap) {s : String} (hconvert : convert s = .ok a)
    (rest : List Char) : nameAs convert (gap ++ (quoted s ++ rest)) = .ok (a, rest) := by
  rw [quoted_append, nameAs, afterGap_append hgap (c := '"') rfl, ← quoted_append]
  exact stringAs_quoted "variant identifier" isGap_nil hconvert rest

/-- A text that is perhaps there: null is nothing, and a string is no null. -/
theorem optionalAt_laid (wanted : String) (pretty : Bool) (level : Nat) {gap : List Char}
    (hgap : IsGap gap) (s : Option String) (rest : List Char) :
    optionalAt (stringAs wanted .ok) (gap ++ (Tree.laid pretty level (.ofOptional s) ++ rest)) =
      .ok (s, rest) := by
  cases s with
  | none =>
    rw [Tree.ofOptional, Tree.laid_null]
    change optionalAt _ (gap ++ 'n' :: ("ull".toList ++ rest)) = _
    rw [optionalAt, afterGap_append hgap (c := 'n') rfl]
    rfl
  | some s =>
    have hread : stringAs wanted .ok ([] ++ (quoted s ++ rest)) = .ok (s, rest) :=
      stringAs_quoted wanted isGap_nil rfl rest
    rw [List.nil_append, quoted_append] at hread
    rw [Tree.ofOptional, Tree.laid_string, quoted_append, optionalAt,
      afterGap_append hgap (c := '"') rfl]
    change (stringAs wanted .ok ('"' :: _) >>= fun front => .ok (some front.1, front.2)) = _
    rw [hread, ok_bind]

theorem instantOf_utc (instant : Instant) : instantOf (Rfc3339.utc instant) = .ok instant := by
  rw [instantOf, Rfc3339.read_utc]
  rfl

theorem familyOf_name (family : Family) : familyOf family.name = .ok family := by
  cases family
  rfl

theorem wordOf_toNat (w : UInt32) : wordOf (.natural w.toNat) = .ok w := by
  rw [wordOf, numberBelow, if_pos w.toNat_lt]
  exact congrArg Except.ok UInt32.ofNat_toNat

theorem sizeOf_toNat (n : UInt64) : sizeOf (.natural n.toNat) = .ok n := by
  rw [sizeOf, numberBelow, if_pos n.toNat_lt]
  exact congrArg Except.ok UInt64.ofNat_toNat

/-- **A value of any kind is read as it was printed, behind any gap.** -/
theorem Kind.read_laid (kind : Kind) (value : kind.Value) (pretty : Bool) (level : Nat)
    {gap : List Char} (hgap : IsGap gap) {rest : List Char} (hrest : Follows rest) :
    kind.read (gap ++ (Tree.laid pretty level (kind.toTree value) ++ rest)) =
      .ok (value, rest) := by
  -- one case a kind; kinds that are printed alike share the lemma of their print
  cases kind with
  | word =>
    have hsize : UInt32.toNat value < UInt64.size :=
      Nat.lt_trans (UInt32.toNat_lt value) (by decide)
    rw [toTree, Tree.laid_number]
    exact numberAs_digits _ hgap hsize (wordOf_toNat value) hrest
  | size =>
    rw [toTree, Tree.laid_number]
    exact numberAs_digits _ hgap (UInt64.toNat_lt value) (sizeOf_toNat value) hrest
  | flag =>
    rw [toTree, Tree.laid_bool]
    exact flagAt_boolWord _ hgap value rest
  | text =>
    rw [toTree, Tree.laid_string]
    exact stringAs_quoted _ hgap rfl rest
  | path =>
    rw [toTree, Tree.laid_string]
    exact stringAs_quoted _ hgap rfl rest
  | instant =>
    rw [toTree, Tree.laid_string]
    exact stringAs_quoted _ hgap (instantOf_utc value) rest
  | family =>
    rw [toTree, Tree.laid_string]
    exact nameAs_quoted hgap (familyOf_name value) rest
  | optionalText => exact optionalAt_laid _ pretty level hgap value rest
  | optionalPath => exact optionalAt_laid _ pretty level hgap value rest

/-! ## §5 Members -/

/-- The member at a place of a row, with its value. -/
inductive Row.At :
    (fields : List Field) → Row fields → Nat → (field : Field) → field.kind.Value → Prop
  | here {field : Field} {fields : List Field} {value : field.kind.Value} {row : Row fields} :
    Row.At (field :: fields) (value, row) 0 field value
  | behind {first field : Field} {fields : List Field} {before : first.kind.Value}
      {row : Row fields} {place : Nat} {value : field.kind.Value}
      (hat : Row.At fields row place field value) :
    Row.At (first :: fields) (before, row) (place + 1) field value

/-- Every place of a row has a member. -/
theorem Row.exists_at {fields : List Field} (row : Row fields) {place : Nat}
    (hplace : place < fields.length) : ∃ field value, Row.At fields row place field value := by
  -- on the fields, since the type of the row hangs on them
  induction fields generalizing place with
  | nil => simp at hplace
  | cons first fields ih =>
    obtain ⟨before, row⟩ := row
    cases place with
    | zero => exact ⟨first, before, .here⟩
    | succ place =>
      obtain ⟨field, value, hat⟩ := ih row (Nat.lt_of_succ_lt_succ hplace)
      exact ⟨field, value, .behind hat⟩

theorem Row.At.mem {fields : List Field} {row : Row fields} {place : Nat} {field : Field}
    {value : field.kind.Value} (hat : Row.At fields row place field value) : field ∈ fields := by
  induction hat with
  | here => exact List.mem_cons_self
  | behind _ ih => exact List.mem_cons_of_mem _ ih

/-- From a place on, a row's members start with the member at that place. -/
theorem Row.At.drop_members {fields : List Field} {row : Row fields} {place : Nat} {field : Field}
    {value : field.kind.Value} (hat : Row.At fields row place field value) :
    (Row.members fields row).drop place =
      (field.name, field.kind.toTree value) :: (Row.members fields row).drop (place + 1) := by
  induction hat with
  | here => rfl
  | behind _ ih => exact ih

theorem Row.length_members {fields : List Field} (row : Row fields) :
    (Row.members fields row).length = fields.length := by
  induction fields with
  | nil => rfl
  | cons field fields ih => exact congrArg (· + 1) (ih row.2)

/-- The draft of a row of which so many members have been read. -/
def Draft.upTo : Nat → (fields : List Field) → Row fields → Draft fields
  | _, [], () => ()
  | 0, field :: fields, _ => Draft.empty (field :: fields)
  | count + 1, _ :: fields, (value, row) => (some value, Draft.upTo count fields row)

theorem Draft.upTo_zero {fields : List Field} (row : Row fields) :
    Draft.upTo 0 fields row = Draft.empty fields := by
  cases fields <;> rfl

/-- A draft of which everything has been read is the row. -/
theorem Draft.row_upTo {fields : List Field} (row : Row fields) :
    Draft.row fields (Draft.upTo fields.length fields row) = .ok row := by
  induction fields with
  | nil => rfl
  | cons field fields ih =>
    -- what has been read stands before any default
    obtain ⟨value, row⟩ := row
    simp only [List.length_cons, Draft.upTo, Draft.row, Option.some_or, ih row]
    rfl

/-- Putting the next member brings the draft one further. -/
theorem Draft.put_upTo {ε σ : Type} {known : (kind : Kind) → σ → Except ε (kind.Value × σ)}
    {unknown : σ → Except ε σ} {again : σ → ε} {fields : List Field} {row : Row fields}
    {place : Nat} {field : Field} {value : field.kind.Value}
    (hat : Row.At fields row place field value) (hnames : (fields.map Field.name).Nodup) {text rest : σ}
    (hknown : known field.kind text = .ok (value, rest)) :
    Draft.put known unknown again field.name fields (Draft.upTo place fields row) text =
      .ok (Draft.upTo (place + 1) fields row, rest) := by
  induction hat with
  | here =>
    simp only [Draft.upTo, Draft.empty, Draft.put, if_true, hknown, ok_bind, Draft.upTo_zero]
    rfl
  | @behind first field fields before row place value hat ih =>
    -- no two members have one name, so the member is not the first one
    rw [List.map_cons, List.nodup_cons] at hnames
    have hother : first.name ≠ field.name := by
      intro hname
      exact hnames.1 (hname ▸ List.mem_map_of_mem hat.mem)
    simp only [Draft.upTo, Draft.put, if_neg hother, ih hnames.2 hknown, ok_bind]
    rfl

/-! ## §6 Records -/

/-- One step reads the member at a place. -/
theorem Schema.memberStep_at (pretty : Bool) (level : Nat) {fields : List Field} {row : Row fields}
    {place : Nat} {field : Field} {value : field.kind.Value}
    (hat : Row.At fields row place field value) (hnames : (fields.map Field.name).Nodup)
    (first : Bool) {rest : List Char} (hrest : Follows rest) :
    Schema.memberStep fields (Draft.upTo place fields row, first)
        (Tree.separator first ++ (Tree.lineGap pretty level ++
          (quoted field.name ++ ':' :: (Tree.valueGap pretty ++
            (Tree.laid pretty level (field.kind.toTree value) ++ rest))))) =
      .ok (((Draft.upTo (place + 1) fields row, false), true), rest) := by
  -- behind the key come the colon, the gap and the value
  have hvalue : (do field.kind.read (← colon (':' :: (Tree.valueGap pretty ++
      (Tree.laid pretty level (field.kind.toTree value) ++ rest))))) = .ok (value, rest) := by
    rw [colon_cons, ok_bind]
    exact field.kind.read_laid value pretty level (Tree.isGap_valueGap pretty) hrest
  rw [Schema.memberStep, nextKey_member first (Tree.isGap_lineGap pretty level), ok_bind]
  dsimp only
  rw [Draft.put_upTo hat hnames hvalue, ok_bind]
  rfl

/-- Step after step the members that are left are read, up to the closing brace. -/
theorem Schema.runs_members (pretty : Bool) (level outer : Nat) {fields : List Field}
    (row : Row fields) (hnames : (fields.map Field.name).Nodup) (place : Nat)
    (hplace : place ≤ fields.length) (rest : List Char) :
    Runs (Schema.memberStep fields) (Draft.upTo place fields row, place == 0)
      (Tree.laidMembers pretty level (place == 0) ((Row.members fields row).drop place) ++
        (Tree.lineGap pretty outer ++ '}' :: rest))
      (Draft.upTo fields.length fields row, fields.length == 0) ('}' :: rest) := by
  -- on the number of members that are left
  induction hleft : fields.length - place generalizing place with
  | zero =>
    obtain rfl : place = fields.length := by omega
    refine .stop ?_
    rw [← Row.length_members row, List.drop_length, Tree.laidMembers, List.nil_append,
      Schema.memberStep, nextKey_end _ (Tree.isGap_lineGap pretty outer), ok_bind]
    rfl
  | succ left ih =>
    obtain ⟨field, value, hat⟩ := row.exists_at (show place < fields.length by omega)
    rw [hat.drop_members, Tree.laidMembers]
    simp only [List.append_assoc, List.cons_append]
    refine .again (Schema.memberStep_at pretty level hat hnames _
      (Tree.follows_laidMembers pretty level outer _ rest)) ?_
      (ih (place + 1) (by omega) (by omega))
    -- the colon alone makes the rest of the text shorter
    simp only [List.length_append, List.length_cons]
    omega

/-- **A record is read from its object, behind any gap and before anything else.** -/
theorem Schema.read_laid (schema : Schema) (row : Row schema.fields)
    (hnames : (schema.fields.map Field.name).Nodup) (hsome : schema.fields ≠ []) (pretty : Bool)
    (level : Nat) {gap : List Char} (hgap : IsGap gap) (rest : List Char) :
    schema.read (gap ++
      (Tree.laid pretty level (.object (Row.members schema.fields row)) ++ rest)) =
      .ok (row, rest) := by
  -- the steps start with an empty draft at the first place
  have hmembers : Row.members schema.fields row ≠ [] := by
    rw [← List.length_pos_iff, Row.length_members, List.length_pos_iff]
    exact hsome
  have hloop := loop_of_runs
    (Schema.runs_members pretty (level + 1) level row hnames 0 (Nat.zero_le _) rest)
  rw [Draft.upTo_zero, List.drop_zero] at hloop
  rw [Tree.laid_object pretty level hmembers]
  simp only [List.cons_append, List.append_assoc, List.nil_append]
  rw [Schema.read, afterGap_append hgap (c := '{') rfl]
  simp only [readMembers]
  rw [show ((0 : Nat) == 0) = true from rfl] at hloop
  rw [hloop, ok_bind]
  simp only [Draft.row_upTo]
  rfl

/-- **A whole text that was printed for a record is read as that record.** -/
theorem Record.read_text {α : Type} [Record α]
    (hnames : ((Record.schema α).fields.map Field.name).Nodup)
    (hsome : (Record.schema α).fields ≠ []) (pretty : Bool) (a : α) :
    Record.read (Record.text pretty a) = .ok a := by
  have hread := (Record.schema α).read_laid (Record.toRow a) hnames hsome pretty 0 isGap_nil []
  rw [List.nil_append, List.append_nil] at hread
  rw [Record.read, whole, Record.text, Tree.text, String.toList_ofList]
  change (Record.readFront (Tree.laid pretty 0 (Record.toTree a)) >>= _) = _
  rw [Record.readFront, Record.toTree, hread]
  simp only [ok_bind, pure_bind, Record.ofRow_toRow]
  rfl

end DiveLink.Json
