import ModuleAudit.Proofs.Text.Letters
import ModuleAudit.Settings.Reading

/-!
# Two spellings of one key

A key of several words can be written in camel case, where every word but the first begins
with a capital, or with underscores between its words. To respell a camel-case key, an
underscore is put before every capital that follows a small letter or a digit. A word that
is nothing but its capital is not separated from the next one. So a camel-case key gets all
its underscores exactly when no word is a single letter, the first and the last one apart.

The sections of the settings are read from respelled keys. It does not matter in which of
the two ways their keys are written.
-/

namespace ModuleAudit

namespace Text

/-- Whether a code point is a small letter or a digit of ASCII: a capital that follows it
begins a word. -/
def endsHump (c : CodePoint) : Bool := c.is Char.isLower || c.is Char.isDigit

theorem not_isUpper_of_endsHump {c : CodePoint} (ends : endsHump c = true) :
    c.is Char.isUpper = false := by
  rw [endsHump, Bool.or_eq_true, CodePoint.is_isLower_iff, CodePoint.is_isDigit_iff] at ends
  rw [Bool.eq_false_iff, ne_eq, CodePoint.is_isUpper_iff]
  omega

theorem not_endsHump_of_isUpper {c : CodePoint} (capital : c.is Char.isUpper = true) :
    endsHump c = false := by
  rw [Bool.eq_false_iff]
  intro ends
  rw [not_isUpper_of_endsHump ends] at capital
  cases capital

/-- Where only the first may be a capital there is nothing to separate. -/
theorem splitHumps_of_small {rest : Text} (small : ∀ d ∈ rest, d.is Char.isUpper = false)
    (c : CodePoint) : splitHumps (c :: rest) = c :: rest := by
  induction rest generalizing c with
  | nil => rfl
  | cons d rest ih =>
    obtain ⟨first, later⟩ := List.forall_mem_cons.1 small
    rw [splitHumps, first, Bool.and_false, if_neg Bool.false_ne_true, ih later]

/-- A capital is separated from a small letter or digit before it. -/
theorem splitHumps_append_capital {rest : Text} (small : ∀ d ∈ rest, endsHump d = true)
    (c : CodePoint) {b : CodePoint} (capital : b.is Char.isUpper = true) (more : Text) :
    splitHumps (c :: rest ++ b :: more) =
      c :: rest ++ (if endsHump c || !rest.isEmpty then [.ofChar '_'] else []) ++
        splitHumps (b :: more) := by
  induction rest generalizing c with
  | nil =>
    rw [List.singleton_append, splitHumps, capital, Bool.and_true, ← endsHump]
    by_cases ends : endsHump c = true
    · simp [ends]
    · simp [ends]
  | cons d rest ih =>
    obtain ⟨first, later⟩ := List.forall_mem_cons.1 small
    rw [List.cons_append, List.cons_append, splitHumps, not_isUpper_of_endsHump first,
      Bool.and_false, if_neg Bool.false_ne_true, ← List.cons_append, ih later d]
    simp [first]

theorem mem_splitHumps {c : CodePoint} {text : Text} (listed : c ∈ splitHumps text) :
    c ∈ text ∨ c = .ofChar '_' := by
  fun_induction splitHumps text with
  | case1 => exact .inl listed
  | case2 a => exact .inl listed
  | case3 a b rest hump ih =>
    rcases List.mem_cons.1 listed with rfl | listed
    · exact .inl List.mem_cons_self
    · rcases List.mem_cons.1 listed with rfl | listed
      · exact .inr rfl
      · exact (ih listed).imp_left (List.mem_cons_of_mem a)
  | case4 a b rest hump ih =>
    rcases List.mem_cons.1 listed with rfl | listed
    · exact .inl List.mem_cons_self
    · exact (ih listed).imp_left (List.mem_cons_of_mem a)

/-- A text of ASCII characters is respelled one by one. -/
theorem snakeCase_eq_map {text : Text} (ascii : ∀ c ∈ text, c.value < 128) :
    snakeCase text = (splitHumps text).map (CodePoint.mapChar Char.toLower) := by
  refine lower_eq_map fun c listed => .inl ?_
  rcases mem_splitHumps listed with listed | rfl
  · exact ascii c listed
  · decide

theorem snakeCase_of_small {text : Text}
    (small : ∀ c ∈ text, c.value < 128 ∧ c.is Char.isUpper = false) : snakeCase text = text := by
  have split : splitHumps text = text := by
    cases text with
    | nil => rfl
    | cons c rest => exact splitHumps_of_small (fun d hd => (small d (by simp [hd])).2) c
  rw [snakeCase_eq_map fun c hc => (small c hc).1, split]
  exact map_toLower_of_not_isUpper fun c hc => (small c hc).2

end Text

/-- A word of a key: a small letter of ASCII, followed by small letters and digits of ASCII. -/
structure KeyWord where
  first : CodePoint
  rest : Text
  first_small : first.is Char.isLower = true
  rest_small : ∀ c ∈ rest, Text.endsHump c = true

namespace KeyWord

def text (w : KeyWord) : Text := w.first :: w.rest

def capitalized (w : KeyWord) : Text := w.first.mapChar Char.toUpper :: w.rest

def camelKey : List KeyWord → Text
  | [] => []
  | w :: words => w.text ++ words.flatMap capitalized

def snakeKey (words : List KeyWord) : Text := List.intercalate [.ofChar '_'] (words.map text)

/-- Whether no word is a single letter, the first and the last one apart. -/
def Separable (words : List KeyWord) : Prop := ∀ w ∈ words.tail.dropLast, 2 ≤ w.text.length

instance (words : List KeyWord) : Decidable (Separable words) :=
  inferInstanceAs (Decidable (∀ w ∈ words.tail.dropLast, 2 ≤ w.text.length))

/-- What becomes of the words behind others. An underscore stands before the first of them if
what precedes it is not a capital, and before another one unless the word before it is a
single letter. -/
def respelled : Bool → List KeyWord → Text
  | _, [] => []
  | separate, w :: words =>
    (if separate then [.ofChar '_'] else []) ++ w.text ++ respelled (!w.rest.isEmpty) words

theorem isUpper_capital (w : KeyWord) : (w.first.mapChar Char.toUpper).is Char.isUpper = true := by
  have small := w.first_small
  rw [CodePoint.is_isUpper_iff, CodePoint.value_mapChar_toUpper, if_pos small]
  rw [CodePoint.is_isLower_iff] at small
  omega

theorem map_toLower_capitalized (w : KeyWord) :
    w.capitalized.map (CodePoint.mapChar Char.toLower) = w.text := by
  have small := (CodePoint.is_isLower_iff w.first).1 w.first_small
  have same : w.rest.map (CodePoint.mapChar Char.toLower) = w.rest :=
    Text.map_toLower_of_not_isUpper fun c hc => Text.not_isUpper_of_endsHump (w.rest_small c hc)
  have back : (w.first.mapChar Char.toUpper).mapChar Char.toLower = w.first := by
    apply CodePoint.ext
    rw [CodePoint.value_mapChar_toLower, if_pos w.isUpper_capital,
      CodePoint.value_mapChar_toUpper, if_pos w.first_small]
    omega
  rw [capitalized, List.map_cons, back, same, text]

/-- Behind the beginning of a key its words are respelled one after the other. -/
theorem map_toLower_splitHumps (words : List KeyWord) {rest : Text}
    (small : ∀ d ∈ rest, Text.endsHump d = true) (c : CodePoint) :
    (Text.splitHumps (c :: rest ++ words.flatMap capitalized)).map
        (CodePoint.mapChar Char.toLower) =
      (c :: rest).map (CodePoint.mapChar Char.toLower) ++
        respelled (Text.endsHump c || !rest.isEmpty) words := by
  induction words generalizing c rest with
  | nil =>
    rw [List.flatMap_nil, List.append_nil, respelled, List.append_nil,
      Text.splitHumps_of_small fun d hd => Text.not_isUpper_of_endsHump (small d hd)]
  | cons w words ih =>
    have capital := w.isUpper_capital
    have later := ih w.rest_small (w.first.mapChar Char.toUpper)
    rw [Text.not_endsHump_of_isUpper capital, Bool.false_or, ← capitalized,
      map_toLower_capitalized] at later
    have begins : (w :: words).flatMap capitalized =
        w.first.mapChar Char.toUpper :: (w.rest ++ words.flatMap capitalized) := rfl
    rw [begins, Text.splitHumps_append_capital small c capital, List.map_append, List.map_append,
      ← List.cons_append, ← capitalized, later, respelled, List.append_assoc, List.append_assoc]
    split
    · rfl
    · rfl

theorem lt_of_mem_text {w : KeyWord} {c : CodePoint} (listed : c ∈ w.text) :
    c.value < 128 ∧ c.is Char.isUpper = false := by
  have ends : Text.endsHump c = true := by
    rcases List.mem_cons.1 listed with rfl | listed
    · simp [Text.endsHump, w.first_small]
    · exact w.rest_small c listed
  refine ⟨?_, Text.not_isUpper_of_endsHump ends⟩
  rw [Text.endsHump, Bool.or_eq_true, CodePoint.is_isLower_iff, CodePoint.is_isDigit_iff] at ends
  omega

theorem lt_of_mem_capitalized {w : KeyWord} {c : CodePoint} (listed : c ∈ w.capitalized) :
    c.value < 128 := by
  rcases List.mem_cons.1 listed with rfl | listed
  · have capital := (CodePoint.is_isUpper_iff _).1 w.isUpper_capital
    omega
  · exact (lt_of_mem_text (List.mem_cons_of_mem _ listed)).1

/-- What becomes of a camel-case key. -/
theorem snakeCase_camelKey (w : KeyWord) (words : List KeyWord) :
    Text.snakeCase (camelKey (w :: words)) = w.text ++ respelled true words := by
  have ascii : ∀ c ∈ camelKey (w :: words), c.value < 128 := by
    intro c listed
    rcases List.mem_append.1 listed with listed | listed
    · exact (lt_of_mem_text listed).1
    · obtain ⟨v, -, listed⟩ := List.mem_flatMap.1 listed
      exact lt_of_mem_capitalized listed
  have small : w.text.map (CodePoint.mapChar Char.toLower) = w.text :=
    Text.map_toLower_of_not_isUpper fun c hc => (lt_of_mem_text hc).2
  have respelling := map_toLower_splitHumps words w.rest_small w.first
  rw [← text, small, Text.endsHump, w.first_small, Bool.true_or, Bool.true_or] at respelling
  rw [Text.snakeCase_eq_map ascii, camelKey, respelling]

theorem snakeKey_cons (w : KeyWord) (words : List KeyWord) :
    snakeKey (w :: words) = w.text ++ words.flatMap fun v => .ofChar '_' :: v.text := by
  induction words generalizing w with
  | nil => simp [snakeKey]
  | cons v words ih =>
    have next := ih v
    simp only [snakeKey, List.map_cons, List.intercalate_cons_cons] at next ⊢
    rw [next]
    simp

/-- The words behind others are all separated if the first is and none of them but the last
is a single letter. -/
theorem respelled_eq_iff (separate : Bool) (words : List KeyWord) :
    respelled separate words = words.flatMap (fun v => .ofChar '_' :: v.text) ↔
      (words ≠ [] → separate = true) ∧ ∀ w ∈ words.dropLast, 2 ≤ w.text.length := by
  induction words generalizing separate with
  | nil => simp [respelled]
  | cons w words ih =>
    cases separate with
    | false =>
      have other : w.first ≠ .ofChar '_' := by
        intro same
        have small := w.first_small
        rw [same] at small
        cases small
      simp [respelled, text, other]
    | true =>
      have long : (!w.rest.isEmpty) = true ↔ 2 ≤ w.text.length := by
        cases h : w.rest <;> simp [text, h]
      have begins : respelled true (w :: words) =
          .ofChar '_' :: (w.text ++ respelled (!w.rest.isEmpty) words) := rfl
      rw [begins, List.flatMap_cons, List.cons_append, List.cons.injEq,
        List.append_cancel_left_eq, ih, long]
      cases words with
      | nil => simp
      | cons v words => simp

/-- A camel-case key is respelled with all its underscores exactly when no word but the first
and the last is a single letter. -/
theorem snakeCase_camelKey_iff (words : List KeyWord) :
    Text.snakeCase (camelKey words) = snakeKey words ↔ Separable words := by
  cases words with
  | nil => exact iff_of_true rfl (by simp [Separable])
  | cons w words =>
    rw [snakeCase_camelKey, snakeKey_cons, List.append_cancel_left_eq, respelled_eq_iff]
    simp [Separable]

/-- A key with underscores is respelled as it is. -/
theorem snakeCase_snakeKey (words : List KeyWord) :
    Text.snakeCase (snakeKey words) = snakeKey words := by
  cases words with
  | nil => rfl
  | cons w words =>
    refine Text.snakeCase_of_small fun c listed => ?_
    rw [snakeKey_cons, List.mem_append, List.mem_flatMap] at listed
    rcases listed with listed | ⟨v, -, listed⟩
    · exact lt_of_mem_text listed
    · rcases List.mem_cons.1 listed with rfl | listed
      · decide
      · exact lt_of_mem_text listed

end KeyWord

namespace Settings

open KeyWord

/-- An object with keys of some words, spelled in some way. -/
def spelled (spelling : List KeyWord → Text) (fields : List (List KeyWord × Json)) : Json :=
  .obj (fields.map fun f => (spelling f.1, f.2))

/-- Both spellings give the same mapping. -/
theorem expectMapping_spelled {fields : List (List KeyWord × Json)}
    (separable : ∀ f ∈ fields, Separable f.1) (place : Text) :
    expectMapping place (spelled camelKey fields) =
      expectMapping place (spelled snakeKey fields) := by
  have keys : (fields.map fun f => (Text.snakeCase (camelKey f.1), f.2)) =
      fields.map fun f => (Text.snakeCase (snakeKey f.1), f.2) :=
    List.map_congr_left fun f hf => by
      rw [(snakeCase_camelKey_iff f.1).2 (separable f hf), snakeCase_snakeKey]
  simp only [spelled, expectMapping, List.map_map, Function.comp_def, keys]

/-- A key in camel case is respelled with underscores between its words exactly when no word
but the first and the last is a single letter, and a key with underscores stays as it is. So
every section with respelled keys is read in the same way from both spellings. -/
theorem read_respelled :
    (∀ words : List KeyWord,
      (Text.snakeCase (camelKey words) = snakeKey words ↔ Separable words) ∧
        Text.snakeCase (snakeKey words) = snakeKey words) ∧
      ∀ fields : List (List KeyWord × Json), (∀ f ∈ fields, Separable f.1) →
        readScan (spelled camelKey fields) = readScan (spelled snakeKey fields) ∧
          readChecks (spelled camelKey fields) = readChecks (spelled snakeKey fields) ∧
          readRules (spelled camelKey fields) = readRules (spelled snakeKey fields) ∧
          readCoupling (spelled camelKey fields) = readCoupling (spelled snakeKey fields) := by
  refine ⟨fun words => ⟨snakeCase_camelKey_iff words, snakeCase_snakeKey words⟩, ?_⟩
  intro fields separable
  have same := expectMapping_spelled separable
  refine ⟨?_, ?_, ?_, ?_⟩
  · rw [readScan, same, readScan]
  · rw [readChecks, same, readChecks]
  · rw [readRules, same, readRules]
  · -- an object is no switch, so its fields are read
    change (expectMapping "analysis.coupling" (spelled camelKey fields) >>= _) = _
    rw [same]
    rfl

def unusedExportsWords : List KeyWord :=
  [⟨'d', "etect", by decide, by decide⟩, ⟨'u', "nused", by decide, by decide⟩,
    ⟨'e', "xports", by decide, by decide⟩]

/-- Words with a single letter between the first and the last. -/
def letterWords : List KeyWord :=
  [⟨'a', "", by decide, by decide⟩, ⟨'b', "", by decide, by decide⟩,
    ⟨'c', "2", by decide, by decide⟩]

/-- A setting is read from both spellings of its key, while a single letter in the middle of
a key is not separated from what follows it. -/
theorem read_respelled_unused_exports :
    (Separable unusedExportsWords ∧ camelKey unusedExportsWords = "detectUnusedExports" ∧
      snakeKey unusedExportsWords = "detect_unused_exports" ∧
      readChecks (.obj [("detectUnusedExports", .bool false)]) =
        readChecks (.obj [("detect_unused_exports", .bool false)]) ∧
      (readChecks (.obj [("detect_unused_exports", .bool false)])).outcome.toOption =
        some { unusedExports := false }) ∧
    ¬ Separable letterWords ∧ Text.snakeCase "aBC2" = "a_bc2" ∧
      Text.snakeCase "aBC2" ≠ snakeKey letterWords := by
  obtain ⟨respelling, reading⟩ := read_respelled
  have separable : Separable unusedExportsWords := by decide
  have breaks : ¬ Separable letterWords := by decide
  obtain ⟨-, checks, -⟩ :=
    reading [(unusedExportsWords, .bool false)] (List.forall_mem_singleton.2 separable)
  refine ⟨⟨separable, by decide, by decide, checks, by decide +kernel⟩, breaks, by decide, ?_⟩
  exact fun same => breaks ((respelling letterWords).1.1 same)

end Settings

end ModuleAudit
