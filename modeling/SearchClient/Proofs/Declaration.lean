import SearchClient.Proofs.ClassMap
import SearchClient.Proofs.Reported
import SearchClient.Proofs.Text

/-! A daemon configuration is read by position. Its lines are told apart by how they begin: source lines give names and
query lines give class ids, each in their own order, and all other lines are passed over. The first query line without a
class id is the fault that is reported; else the mapping follows from the two lists alone, whose items are paired one by
one, however the lines are mixed. -/

namespace SearchClient

/-! ### Lists -/

section Lists
variable {α β : Type} {R : α → β → Prop}

/-- The items of a list that are related to something, in their order and with what they are related to. -/
inductive Picks (R : α → β → Prop) : List α → List β → Prop
  | nil : Picks R [] []
  | take {a : α} {b : β} {as : List α} {bs : List β} : R a b → Picks R as bs → Picks R (a :: as) (b :: bs)
  | skip {a : α} {as : List α} {bs : List β} : (∀ b, ¬R a b) → Picks R as bs → Picks R (a :: as) bs

theorem picks_iff {f : α → Option β} (h : ∀ a b, f a = some b ↔ R a b) {as : List α} {bs : List β} :
    Picks R as bs ↔ as.filterMap f = bs := by
  constructor
  · intro hpicks
    induction hpicks with
    | nil => rfl
    | take hb _ ih => rw [List.filterMap_cons_some ((h _ _).mpr hb), ih]
    | skip hnot _ ih =>
      rw [List.filterMap_cons_none (Option.eq_none_iff_forall_not_mem.mpr fun b hb => hnot b ((h _ _).mp hb)), ih]
  · rintro rfl
    induction as with
    | nil => exact .nil
    | cons a as ih =>
      cases ha : f a with
      | none =>
        rw [List.filterMap_cons_none ha]
        refine .skip (fun b hb => ?_) ih
        rw [(h a b).mpr hb] at ha
        cases ha
      | some b =>
        rw [List.filterMap_cons_some ha]
        exact .take ((h a b).mp ha) ih

end Lists

namespace ClassMap
open Text

/-! ### Source lines -/

def isNameCharacter (c : Char) : Bool := isWordCharacter c || c == '-'

/-- A source line begins with `source ` and a name, which goes on as long as it can. -/
def NamesSource (line name : List Char) : Prop :=
  name ≠ [] ∧ (∀ c ∈ name, isNameCharacter c = true) ∧
    ∃ rest, line = "source ".toList ++ (name ++ rest) ∧ ∀ c ∈ rest.head?, isNameCharacter c = false

theorem after?_eq_some_iff {start cs rest : List Char} : after? start cs = some rest ↔ cs = start ++ rest := by
  unfold after?
  constructor
  · intro h
    split at h
    · next hprefix =>
      obtain ⟨rest', rfl⟩ := List.isPrefixOf_iff_prefix.mp hprefix
      rw [List.drop_left] at h
      rw [Option.some.inj h]
    · cases h
  · rintro rfl
    rw [if_pos (List.isPrefixOf_iff_prefix.mpr (List.prefix_append _ _)), List.drop_left]

theorem sourceName?_eq_some_iff {line name : List Char} : sourceName? line = some name ↔ NamesSource line name := by
  unfold sourceName?
  constructor
  · intro h
    obtain ⟨rest, hrest, hname⟩ := Option.bind_eq_some_iff.mp h
    dsimp only at hname
    split at hname
    · cases hname
    · next hne =>
      obtain rfl := Option.some.inj hname
      refine ⟨fun hnil => hne (List.isEmpty_iff.mpr hnil), fun c hc => of_mem_takeWhile hc,
        rest.dropWhile isNameCharacter, ?_, fun c hc => of_mem_head?_dropWhile hc⟩
      rw [after?_eq_some_iff.mp hrest]
      exact congrArg _ List.takeWhile_append_dropWhile.symm
  · rintro ⟨hne, hname, rest, rfl, hrest⟩
    have htake : (name ++ rest).takeWhile (fun c => isWordCharacter c || c == '-') = name :=
      takeWhile_append_of_stop hname hrest
    rw [after?_eq_some_iff.mpr rfl, Option.bind_some]
    dsimp only
    rw [htake, if_neg (by simpa using hne)]

/-! ### Query lines -/

/-- Digits and ` AS class_id` stand at the front of a text. -/
def BeginsWithId (digits cs : List Char) : Prop :=
  digits ≠ [] ∧ (∀ c ∈ digits, isDecimalDigit c = true) ∧ digits ++ " AS class_id".toList <+: cs

/-- A line selects the class id of the first place at which digits and ` AS class_id` begin. -/
def SelectsId (line : List Char) (id : UInt32) : Prop :=
  ∃ longer rest shorter digits, line.tails = longer ++ rest :: shorter ∧
    (∀ cs ∈ longer, ∀ digits, ¬BeginsWithId digits cs) ∧ BeginsWithId digits rest ∧ natural? digits = some id.toNat

def digitsAt? (cs : List Char) : Option (List Char) :=
  if cs.takeWhile isDecimalDigit ≠ [] ∧ " AS class_id".toList <+: cs.dropWhile isDecimalDigit then
    some (cs.takeWhile isDecimalDigit)
  else none

theorem digitsAt?_eq_some_iff {digits cs : List Char} : digitsAt? cs = some digits ↔ BeginsWithId digits cs := by
  unfold digitsAt?
  constructor
  · intro h
    split at h
    · next hcs =>
      obtain rfl := Option.some.inj h
      refine ⟨hcs.1, fun c hc => of_mem_takeWhile hc, ?_⟩
      have hprefix := (List.prefix_append_right_inj (cs.takeWhile isDecimalDigit)).mpr hcs.2
      rwa [List.takeWhile_append_dropWhile] at hprefix
    · cases h
  · rintro ⟨hne, hdigits, after, rfl⟩
    have hstop : ∀ c ∈ (" AS class_id".toList ++ after).head?, isDecimalDigit c = false := by
      intro c hc
      obtain rfl : ' ' = c := Option.some.inj hc
      decide
    rw [List.append_assoc, takeWhile_append_of_stop hdigits hstop, dropWhile_append_of_stop hdigits hstop,
      if_pos ⟨hne, List.prefix_append _ _⟩]

theorem digitsAt?_eq_none_iff {cs : List Char} : digitsAt? cs = none ↔ ∀ digits, ¬BeginsWithId digits cs := by
  simp only [Option.eq_none_iff_forall_not_mem, Option.mem_def, digitsAt?_eq_some_iff]

section Step
variable {inRun : Bool} {c : Char} {cs : List Char}

theorem idDigits?_cons_of_other (hc : isDecimalDigit c = false) : idDigits? inRun (c :: cs) = idDigits? false cs := by
  rw [idDigits?, hc]
  rfl

theorem idDigits?_cons_of_id (hc : isDecimalDigit c = true)
    (h : " AS class_id".toList <+: cs.dropWhile isDecimalDigit) :
    idDigits? false (c :: cs) = some (c :: cs.takeWhile isDecimalDigit) := by
  rw [idDigits?, if_pos hc, List.isPrefixOf_iff_prefix.mpr h]
  rfl

theorem idDigits?_cons_of_digit (hc : isDecimalDigit c = true)
    (h : ¬" AS class_id".toList <+: cs.dropWhile isDecimalDigit) : idDigits? inRun (c :: cs) = idDigits? true cs := by
  have hnot : " AS class_id".toList.isPrefixOf (cs.dropWhile isDecimalDigit) = false :=
    Bool.eq_false_iff.mpr (mt List.isPrefixOf_iff_prefix.mp h)
  rw [idDigits?, if_pos hc, hnot, Bool.and_false]
  rfl

theorem digitsAt?_cons_of_other (hc : isDecimalDigit c = false) : digitsAt? (c :: cs) = none := by
  refine digitsAt?_eq_none_iff.mpr fun digits ⟨hne, hdigits, hprefix⟩ => ?_
  obtain ⟨d, digits, rfl⟩ := List.exists_cons_of_ne_nil hne
  obtain ⟨rfl, -⟩ := List.cons_prefix_cons.mp hprefix
  rw [hdigits d List.mem_cons_self] at hc
  cases hc

theorem digitsAt?_cons_of_id (hc : isDecimalDigit c = true)
    (h : " AS class_id".toList <+: cs.dropWhile isDecimalDigit) :
    digitsAt? (c :: cs) = some (c :: cs.takeWhile isDecimalDigit) := by
  rw [digitsAt?, List.takeWhile_cons_of_pos hc, List.dropWhile_cons_of_pos hc, if_pos ⟨List.cons_ne_nil _ _, h⟩]

theorem digitsAt?_cons_of_digit (hc : isDecimalDigit c = true)
    (h : ¬" AS class_id".toList <+: cs.dropWhile isDecimalDigit) : digitsAt? (c :: cs) = none := by
  rw [digitsAt?, List.dropWhile_cons_of_pos hc, if_neg fun hid => h hid.2]

end Step

/-- Behind a digit, the rest of its run is passed over; no id begins there if none begins with the run. -/
theorem idDigits?_eq_findSome? (cs : List Char) : idDigits? false cs = cs.tails.findSome? digitsAt? ∧
    (¬" AS class_id".toList <+: cs.dropWhile isDecimalDigit → idDigits? true cs = cs.tails.findSome? digitsAt?) := by
  induction cs with
  | nil => exact ⟨rfl, fun _ => rfl⟩
  | cons c cs ih =>
    rw [List.tails, List.findSome?_cons]
    cases hc : isDecimalDigit c with
    | false =>
      rw [digitsAt?_cons_of_other hc, idDigits?_cons_of_other hc, idDigits?_cons_of_other hc]
      exact ⟨ih.1, fun _ => ih.1⟩
    | true =>
      rw [List.dropWhile_cons_of_pos hc]
      by_cases hid : " AS class_id".toList <+: cs.dropWhile isDecimalDigit
      · rw [digitsAt?_cons_of_id hc hid, idDigits?_cons_of_id hc hid]
        exact ⟨rfl, fun hnot => absurd hid hnot⟩
      · rw [digitsAt?_cons_of_digit hc hid, idDigits?_cons_of_digit hc hid, idDigits?_cons_of_digit hc hid]
        exact ⟨ih.2 hid, ih.2⟩

theorem classId?_eq_some_iff {digits : List Char} {id : UInt32} :
    classId? digits = some id ↔ natural? digits = some id.toNat := by
  unfold classId?
  cases natural? digits with
  | none => simp
  | some n =>
    dsimp only
    constructor
    · intro h
      split at h
      · next hfits => rw [← Option.some.inj h, UInt32.toNat_ofNat_of_lt' hfits]
      · cases h
    · intro h
      obtain rfl := Option.some.inj h
      rw [if_pos id.toNat_lt, UInt32.ofNat_toNat]

theorem selectsId_iff {line : List Char} {id : UInt32} :
    (idDigits? false line).bind classId? = some id ↔ SelectsId line id := by
  rw [(idDigits?_eq_findSome? line).1, Option.bind_eq_some_iff]
  simp only [List.findSome?_eq_some_iff, digitsAt?_eq_some_iff, digitsAt?_eq_none_iff, classId?_eq_some_iff]
  constructor
  · rintro ⟨digits, ⟨longer, rest, shorter, htails, hrest, hlonger⟩, hid⟩
    exact ⟨longer, rest, shorter, digits, htails, hlonger, hrest, hid⟩
  · rintro ⟨longer, rest, shorter, digits, htails, hlonger, hrest, hid⟩
    exact ⟨digits, ⟨longer, rest, shorter, htails, hrest, hlonger⟩, hid⟩

def IsQuery (line : List Char) : Prop := "sql_query ".toList <+: line ∨ "sql_query=".toList <+: line

instance : DecidablePred IsQuery := fun _ => inferInstanceAs (Decidable (_ ∨ _))

/-! ### One pass as two -/

def queryId (line : List Char) : Except Fault UInt32 :=
  match (idDigits? false line).bind classId? with
  | some id => .ok id
  | none => .error (.queryWithoutId (trim line))

theorem queryId_eq_ok_iff {line : List Char} {id : UInt32} : queryId line = .ok id ↔ SelectsId line id := by
  rw [← selectsId_iff, queryId]
  cases (idDigits? false line).bind classId? <;> simp

theorem queryId_eq_error {line : List Char} (h : ∀ id, ¬SelectsId line id) :
    queryId line = .error (.queryWithoutId (trim line)) := by
  have hnone : (idDigits? false line).bind classId? = none :=
    Option.eq_none_iff_forall_not_mem.mpr fun id hid => h id (selectsId_iff.mp hid)
  rw [queryId, hnone]

theorem not_isQuery_of_namesSource {line name : List Char} (h : NamesSource line name) : ¬IsQuery line := by
  obtain ⟨-, -, rest, rfl, -⟩ := h
  have hsource : "source ".toList <+: "source ".toList ++ (name ++ rest) := List.prefix_append _ _
  rintro (hquery | hquery)
  · exact absurd (List.prefix_or_prefix_of_prefix hsource hquery) (by decide)
  · exact absurd (List.prefix_or_prefix_of_prefix hsource hquery) (by decide)

theorem sourceName?_of_isQuery {line : List Char} (h : IsQuery line) : sourceName? line = none :=
  Option.eq_none_iff_forall_not_mem.mpr fun _ hname => not_isQuery_of_namesSource (sourceName?_eq_some_iff.mp hname) h

theorem ofLine_of_isQuery {line : List Char} (h : IsQuery line) :
    Declaration.ofLine line = .query (idDigits? false line) := by
  have hbool : ("sql_query ".toList.isPrefixOf line || "sql_query=".toList.isPrefixOf line) = true := by
    rw [Bool.or_eq_true, List.isPrefixOf_iff_prefix, List.isPrefixOf_iff_prefix]
    exact h
  rw [Declaration.ofLine, sourceName?_of_isQuery h, hbool]
  rfl

theorem ofLine_of_sourceName? {line name : List Char} (h : sourceName? line = some name) :
    Declaration.ofLine line = .source name := by
  rw [Declaration.ofLine, h]

theorem ofLine_of_not_isQuery {line : List Char} (hname : sourceName? line = none) (h : ¬IsQuery line) :
    Declaration.ofLine line = .other := by
  have hbool : ¬("sql_query ".toList.isPrefixOf line || "sql_query=".toList.isPrefixOf line) = true := by
    rw [Bool.or_eq_true, List.isPrefixOf_iff_prefix, List.isPrefixOf_iff_prefix]
    exact h
  rw [Declaration.ofLine, hname]
  exact if_neg hbool

/-- One pass over the lines reads what two read: one over the query lines, which may fail, and one for the names. -/
theorem declarations_eq (lines : List (List Char)) : declarations lines = (do
    let ids ← (lines.filter fun line => IsQuery line).mapM queryId
    return (lines.filterMap sourceName?, ids)) := by
  induction lines with
  | nil => rfl
  | cons line lines ih =>
    rw [declarations, ih]
    by_cases hquery : IsQuery line
    · rw [ofLine_of_isQuery hquery, List.filter_cons_of_pos (by simpa using hquery), List.mapM_cons,
        List.filterMap_cons_none (sourceName?_of_isQuery hquery), queryId]
      dsimp only
      cases (idDigits? false line).bind classId? with
      | none => rfl
      | some id => cases (lines.filter fun line => IsQuery line).mapM queryId <;> rfl
    · rw [List.filter_cons_of_neg (by simpa using hquery)]
      cases hname : sourceName? line with
      | none => rw [ofLine_of_not_isQuery hname hquery, List.filterMap_cons_none hname]
      | some name =>
        rw [ofLine_of_sourceName? hname, List.filterMap_cons_some hname]
        cases (lines.filter fun line => IsQuery line).mapM queryId <;> rfl

/-! ### Reading by position -/

/-- The lines of a text without the white space in front of them. -/
def declaringLines (contents : String) : List (List Char) := (lines contents.toList).map trimStart

def queryLines (contents : String) : List (List Char) := (declaringLines contents).filter fun line => IsQuery line

def typeOf (name : List Char) : String := classify (String.ofList name)

section Reading
variable {contents : String} {names : List (List Char)} {ids : List UInt32}

theorem declared_eq_error {before after : List (List Char)} {line : List Char}
    (hlines : queryLines contents = before ++ line :: after) (hbefore : ∀ earlier ∈ before, ∃ id, SelectsId earlier id)
    (hline : ∀ id, ¬SelectsId line id) : declared contents = .error (.queryWithoutId (trim line)) := by
  have hread : (queryLines contents).mapM queryId = .error (.queryWithoutId (trim line)) := by
    rw [hlines]
    refine mapM_eq_error (fun earlier hearlier => ?_) (queryId_eq_error hline)
    obtain ⟨id, hid⟩ := hbefore earlier hearlier
    exact ⟨id, queryId_eq_ok_iff.mpr hid⟩
  unfold declared
  rw [declarations_eq]
  show Except.map _ (((queryLines contents).mapM queryId).bind _) = _
  rw [hread]
  rfl

theorem declared_eq_ok (hnames : Picks NamesSource (declaringLines contents) names)
    (hids : List.Forall₂ SelectsId (queryLines contents) ids) : declared contents = .ok (names.map typeOf, ids) := by
  have hread : (queryLines contents).mapM queryId = .ok ids := by
    refine mapM_eq_ok_iff.mpr (hids.imp fun line id hid => ?_)
    exact queryId_eq_ok_iff.mpr hid
  have hsources : (declaringLines contents).filterMap sourceName? = names :=
    (picks_iff fun line name => sourceName?_eq_some_iff).mp hnames
  unfold declared
  rw [declarations_eq]
  show Except.map _ (((queryLines contents).mapM queryId).bind fun ids =>
    pure ((declaringLines contents).filterMap sourceName?, ids)) = _
  rw [hread, hsources]
  refine congrArg (fun types => Except.ok (types, ids)) (List.map_congr_left fun name _ => ?_)
  rw [typeOf, classify, String.toList_ofList]

end Reading

/-- The pairs of a mapping are those of the names and class ids, taken one by one. -/
theorem ofPairs_zip_of_nodup {names : List String} {ids : List UInt32} (hlength : names.length = ids.length)
    (hnames : names.Nodup) (hids : ids.Nodup) (name : String) (id : UInt32) :
    ((ofPairs (names.zip ids)).idOf? name = some id ↔ (name, id) ∈ names.zip ids) ∧
      ((ofPairs (names.zip ids)).nameOf? id = some name ↔ (name, id) ∈ names.zip ids) := by
  rw [idOf?_ofPairs, nameOf?_ofPairs]
  refine ⟨⟨IsLastBy.mem, .of_nodup ?_⟩, ⟨IsLastBy.mem, .of_nodup ?_⟩⟩
  · rwa [List.map_fst_zip (Nat.le_of_eq hlength)]
  · rwa [List.map_snd_zip (Nat.le_of_eq hlength.symm)]

/-- The first query line that selects no class id is the fault of a text. Without such a line, texts with the same names
of sources and the same class ids give the same result, wherever these stand: a fault unless they are equally many, and
the mapping of the first name to the first id and so on if neither the names of entity types nor the ids repeat. -/
theorem ofText_by_position (contents : String) :
    (∀ before line after, queryLines contents = before ++ line :: after →
      (∀ earlier ∈ before, ∃ id, SelectsId earlier id) → (∀ id, ¬SelectsId line id) →
        (ofText contents).mapError Fault.message =
          .error ("sql_query without a class id: " ++ String.ofList (trim line))) ∧
    ∀ names ids, Picks NamesSource (declaringLines contents) names →
      List.Forall₂ SelectsId (queryLines contents) ids →
        (∀ other, Picks NamesSource (declaringLines other) names → List.Forall₂ SelectsId (queryLines other) ids →
          ofText other = ofText contents) ∧
        (names.length ≠ ids.length → ofText contents = .error (.countMismatch names.length ids.length)) ∧
        (names.length = ids.length → (names.map typeOf).Nodup → ids.Nodup →
          ∃ map, ofText contents = .ok map ∧ ∀ name id,
            (map.idOf? name = some id ↔ (name, id) ∈ (names.map typeOf).zip ids) ∧
              (map.nameOf? id = some name ↔ (name, id) ∈ (names.map typeOf).zip ids)) := by
  refine ⟨fun before line after hlines hbefore hline => ?_, fun names ids hnames hids => ?_⟩
  · rw [ofText_of_declared_error (declared_eq_error hlines hbefore hline)]
    rfl
  · have hread := ofText_of_declared (declared_eq_ok hnames hids)
    refine ⟨fun other hnames' hids' => ?_, fun hlength => ?_, fun hlength htypes hnodup => ?_⟩
    · rw [hread, ofText_of_declared (declared_eq_ok hnames' hids')]
    · rw [hread, List.length_map, if_pos hlength]
    · have hlength' : (names.map typeOf).length = ids.length := by rw [List.length_map, hlength]
      refine ⟨_, ?_, ofPairs_zip_of_nodup hlength' htypes hnodup⟩
      rw [hread, htypes.dedup, hnodup.dedup, if_neg (not_not.mpr hlength'), if_neg (not_not.mpr hlength')]

/-- Two queries and then two sources, between lines that only look like them. -/
def mixedLines : String :=
  "#\r\n\tsql_query=SELECT 7 AS class_id\r\nsql_query_pre = 9 AS class_id\r\nsource = x\r\n" ++
  "sql_query = 1 AS class, 12 AS class_id\n source cats:base\nsource old-dogs"

/-- The second query selects a class id, but not in 32 bits. -/
def oversizedId : String := "sql_query=1 AS class_id\n sql_query=4294967296 AS class_id \nsql_query ="

theorem ofText_by_position_mixedLines :
    (ofText oversizedId).mapError Fault.message =
        .error "sql_query without a class id: sql_query=4294967296 AS class_id" ∧
      Picks NamesSource (declaringLines mixedLines) ["cats".toList, "old-dogs".toList] ∧
      List.Forall₂ SelectsId (queryLines mixedLines) [7, 12] ∧
      ∃ map, ofText mixedLines = .ok map ∧ map.idOf? "Cat" = some 7 ∧ map.nameOf? 12 = some "OldDog" := by
  have hread : (declaringLines mixedLines).filterMap sourceName? = ["cats".toList, "old-dogs".toList] ∧
      (queryLines mixedLines).mapM queryId = .ok [7, 12] := by decide +kernel
  have hnames : Picks NamesSource (declaringLines mixedLines) ["cats".toList, "old-dogs".toList] :=
    (picks_iff fun line name => sourceName?_eq_some_iff).mpr hread.1
  have hids : List.Forall₂ SelectsId (queryLines mixedLines) [7, 12] :=
    (mapM_eq_ok_iff.mp hread.2).imp fun line id hid => queryId_eq_ok_iff.mp hid
  refine ⟨?_, hnames, hids, ?_⟩
  · have hlines : queryLines oversizedId = ["sql_query=1 AS class_id".toList] ++
        "sql_query=4294967296 AS class_id ".toList :: ["sql_query =".toList] := by decide +kernel
    have hfirst : SelectsId "sql_query=1 AS class_id".toList 1 := queryId_eq_ok_iff.mp (by decide +kernel)
    have hsecond : (idDigits? false "sql_query=4294967296 AS class_id ".toList).bind classId? = none := by
      decide +kernel
    rw [(ofText_by_position oversizedId).1 _ _ _ hlines (List.forall_mem_singleton.mpr ⟨1, hfirst⟩) fun id hid => ?_]
    · decide +kernel
    · rw [selectsId_iff.mpr hid] at hsecond
      cases hsecond
  · obtain ⟨-, -, hmap⟩ := (ofText_by_position mixedLines).2 _ _ hnames hids
    obtain ⟨map, hread, hpairs⟩ := hmap rfl (by decide +kernel) (by decide)
    exact ⟨map, hread, (hpairs _ _).1.mpr (by decide +kernel), (hpairs _ _).2.mpr (by decide +kernel)⟩

end ClassMap
end SearchClient
