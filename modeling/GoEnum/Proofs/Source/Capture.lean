/-
  What the methods of an enumeration refer to.

  A method binds its receiver, and the one that reads a value from text also binds its
  parameter `text` and the variables `parsed` and `err`. None of these names is one that
  the methods take from outside: a constant, what is made of the name of the enumeration,
  a predeclared word or an import. So what is free in the methods is just what they are
  meant to take from outside (`receiver_capturesNothing`).
-/
import GoEnum.Proofs.Naming.Receiver
import GoEnum.Proofs.Source.FreeNames
import GoEnum.Proofs.Source.Scopes

namespace GoEnum.Source

open Text Lexeme Naming

/-! ### Free words -/

section

variable {name : String} {bound ws : List String} {s : String}

theorem freeWords_append (ws vs : List String) :
    freeWords bound (ws ++ vs) = freeWords bound ws ++ freeWords bound vs :=
  List.filter_append _ _

theorem freeWords_keyword (hs : s ∈ keywords) :
    freeWords bound (s :: ws) = freeWords bound ws :=
  List.filter_cons_of_neg (by simp [hs])

theorem freeWords_bound (hs : s ∈ bound) : freeWords bound (s :: ws) = freeWords bound ws :=
  List.filter_cons_of_neg (by simp [hs])

theorem freeWords_free (hkeyword : s ∉ keywords) (hbound : s ∉ bound) :
    freeWords bound (s :: ws) = s :: freeWords bound ws :=
  List.filter_cons_of_pos (by simp [hkeyword, hbound])

/-- A method binds no predeclared word and no import. -/
theorem freeWords_reserved (hbound : bound ⊆ boundNames name) (hs : s ∈ reserved) :
    freeWords bound (s :: ws) = s :: freeWords bound ws := by
  have hkeywords : ∀ word ∈ reserved, word ∉ keywords := by decide
  exact freeWords_free (hkeywords s hs) fun hmem =>
    reserved_not_mem_boundNames name s hs (hbound hmem)

/-- A method binds nothing that is made of the name of the enumeration. -/
theorem freeWords_derived (hbound : bound ⊆ boundNames name) (hname : isIdentifier name = true)
    (hs : s ∈ [parseFunction name, valuesFunction name, invalidError name, namesTable name]) :
    freeWords bound (s :: ws) = s :: freeWords bound ws := by
  have hne : name ≠ "" := by
    rintro rfl
    exact toList_ne_nil_of_isIdentifier hname rfl
  have hall : (declaredNames name (.int none)).Nodup := nodup_declaredNames hne trivial
  have hnodup : (name :: [parseFunction name, valuesFunction name, invalidError name,
      namesTable name]).Nodup := hall
  have hdeclared : s ∈ declaredNames name (.int none) := List.mem_cons_of_mem name hs
  have hother : s ≠ name := by
    rintro rfl
    exact (List.nodup_cons.mp hnodup).1 hs
  exact freeWords_free (isFree_of_mem_declaredNames hdeclared hother).1 fun hmem =>
    declared_not_mem_boundNames hdeclared hother (hbound hmem)

/-- A method binds no constant. -/
theorem freeWords_constants (hbound : bound ⊆ boundNames name) (values : List String) :
    freeWords bound (values.map constant) = values.map constant := by
  refine List.filter_eq_self.mpr ?_
  rintro s hs
  obtain ⟨value, -, rfl⟩ := List.mem_map.mp hs
  have hkeyword := (isFree_constant value).1
  have hnot : constant value ∉ bound := fun hmem =>
    constant_not_mem_boundNames name value (hbound hmem)
  simp [hkeyword, hnot]

theorem receiver_subset_boundNames (name : String) : [receiver name] ⊆ boundNames name := by
  simp [boundNames]

end

/-! ### Lines of methods -/

section

variable {name : String}

theorem isWord_receiver (h : isIdentifier name = true) : IsWord (receiver name) := by
  rcases receiver_cases name with ⟨hletter, -⟩ | hfallback
  · obtain ⟨hne, hword⟩ := isWord_of_isIdentifier h
    rw [hletter]
    apply isWord_lowercase
    rw [IsWord, firstChar, String.toList_ofList]
    refine ⟨by simpa using hne, List.all_eq_true.mpr fun c hc => ?_⟩
    exact List.all_eq_true.mp hword c (List.mem_of_mem_take hc)
  · rw [hfallback]
    unfold receiver.fallback
    split <;> decide

theorem isWord_parseFunction (h : isIdentifier name = true) : IsWord (parseFunction name) :=
  isWord_append (by decide) (isWord_of_isIdentifier h).2

theorem isWord_invalidError (h : isIdentifier name = true) : IsWord (invalidError name) :=
  isWord_append (by decide) (isWord_of_isIdentifier h).2

theorem isWord_namesTable (h : isIdentifier name = true) : IsWord (namesTable name) :=
  isWord_append (isWord_lowercase (isWord_of_isIdentifier h)) (by decide)

/-- The table of names at the receiver. -/
theorem readsAs_tableEntry (h : isIdentifier name = true) :
    ReadsAs (IntegerEnum.tableEntry name) [namesTable name, receiver name] := by
  intro t ht
  have hclosing : tokens ("]" ++ t) = tokens t := tokens_append (by decide) t
  have hopening : tokens "[" = [] := by decide
  rw [IntegerEnum.tableEntry, String.append_assoc, String.append_assoc, String.append_assoc,
    tokens_word_append (isWord_namesTable h) (endsWord_append (by decide) _),
    tokens_append_word (by decide) (isWord_receiver h) (endsWord_append (by decide) _),
    hclosing, hopening]
  rfl

/-- A conversion of the receiver. -/
theorem readsAs_conversion {type : String} (htype : IsWord type) (h : isIdentifier name = true) :
    ReadsAs (type ++ "(" ++ receiver name ++ ")") [type, receiver name] := by
  intro t ht
  have hclosing : tokens (")" ++ t) = tokens t := tokens_append (by decide) t
  have hopening : tokens "(" = [] := by decide
  rw [String.append_assoc, String.append_assoc, String.append_assoc,
    tokens_word_append htype (endsWord_append (by decide) _),
    tokens_append_word (by decide) (isWord_receiver h) (endsWord_append (by decide) _),
    hclosing, hopening]
  rfl

/-- The early return of a method where its receiver is invalid. -/
theorem tokens_guardValid (h : isIdentifier name = true) (result : String) :
    (guardValid (receiver name) result).flatMap tokens =
      ["if", receiver name, "return"].map Token.word ++ tokens result := by
  have hcondition : tokens ("if !" ++ receiver name ++ ".IsValid()" ++ " \x7b") =
      [.word "if", .word (receiver name)] := by
    rw [String.append_assoc, String.append_assoc,
      tokens_append_word (by decide) (isWord_receiver h) (by decide)]
    rfl
  have hreturn : tokens ("return " ++ result) = .word "return" :: tokens result :=
    tokens_append (by decide) result
  have hclosing : tokens "\x7d" = [] := by decide
  simp [guardValid, block, enclosed, indent, hcondition, hreturn, hclosing]

/-- The line with the labels of the valid values. The label of the empty text is in quotes, and
leaves no trace. -/
theorem tokens_validLabels {values : List String}
    (hvalues : ∀ value ∈ values, isIdentifier (constant value) = true) (acceptEmpty : Bool) :
    tokens ("case " ++ StringEnum.validLabels acceptEmpty values ++ ":") =
      ("case" :: values.map constant).map Token.word := by
  have hconstants : ∀ w ∈ values.map constant, IsWord w := by
    intro w hw
    obtain ⟨value, hvalue, rfl⟩ := List.mem_map.mp hw
    exact isWord_of_isIdentifier (hvalues value hvalue)
  have hlabels := readsAs_intercalate hconstants ":" (by decide)
  have hcolon : tokens ":" = [] := by decide
  have hopening : tokens "case " = [.word "case"] := by decide
  have hempty : tokens ("case " ++ "\"\", ") = [.word "case"] := by decide
  rw [StringEnum.validLabels, String.append_assoc, String.append_assoc]
  cases acceptEmpty
  · rw [if_neg (by decide), String.empty_append, tokens_append (by decide), hlabels, hopening,
      hcolon]
    simp
  · rw [if_pos rfl, ← String.append_assoc, tokens_append (by decide), hlabels, hempty, hcolon]
    simp

/-- What a method returns that fails: nothing, and the error. -/
theorem tokens_invalidValue (h : isIdentifier name = true) {verb shown : String}
    (hverb : verb ∈ ["%q", "%d"]) {ws : List String} (hshown : ReadsAs shown ws) :
    tokens ("nil, " ++ invalidValue name verb shown) =
      (["nil", "fmt", invalidError name] ++ ws).map Token.word := by
  have hsplit : "nil, " ++ invalidValue name verb shown =
      ("nil, " ++ "fmt.Errorf(\"%w: " ++ verb ++ "\", ") ++
        (invalidError name ++ (", " ++ (shown ++ ")"))) := by
    unfold invalidValue
    simp only [String.append_assoc]
  have hpiece : Mode.between.after ("nil, " ++ "fmt.Errorf(\"%w: " ++ verb ++ "\", ").toList =
      .between ∧ tokens ("nil, " ++ "fmt.Errorf(\"%w: " ++ verb ++ "\", ") =
        [.word "nil", .word "fmt"] := by
    simp only [List.mem_cons, List.not_mem_nil, or_false] at hverb
    rcases hverb with rfl | rfl <;> decide
  have hcomma : tokens (", " ++ (shown ++ ")")) = ws.map Token.word := by
    rw [tokens_append (by decide), hshown _ (by decide)]
    exact List.append_nil _
  rw [hsplit, tokens_append_word hpiece.1 (isWord_invalidError h) (endsWord_append (by decide) _),
    hpiece.2, hcomma]
  simp

/-! ### Methods -/

/-- A method that has no parameters and declares nothing refers to what it does not have from its
receiver. -/
theorem refers_plainMethod (h : isIdentifier name = true) (comment : String)
    (hcomment : comment.toList.head? = some '/') {m t signature : String} (hm : '(' ∉ m.toList)
    (hsignature : signature = m ++ "(" ++ "" ++ ")" ++ t) {body words : List String}
    (hwords : body.flatMap tokens = words.map Token.word) :
    Refers (comment :: block (method name signature) body)
      [freeWords [receiver name] words] := by
  have hopens : "func (".toList <+: (method name signature).toList := by
    simp [method, List.IsPrefix]
  -- There are only words in the body, so no line declares anything.
  have hdeclared : (body.flatMap fun l => declaredBy (tokens l)) = [] := by
    refine List.flatMap_eq_nil_iff.mpr fun l hl => if_neg fun hdefine => ?_
    have hmem : Token.define ∈ body.flatMap tokens := List.mem_flatMap.mpr ⟨l, hl, hdefine⟩
    simp [hwords] at hmem
  have hrefers := refers_method comment hcomment hopens (parameters_of_signature h hm hsignature _)
    hdeclared
  have hread : wordsOf (words.map Token.word) = words := by
    simp [wordsOf, List.filterMap_map]
  rwa [List.append_nil, hwords, hread] at hrefers

theorem refers_string_stringDeclaration (h : isIdentifier name = true) :
    Refers (StringEnum.stringDeclaration name) [["string"]] := by
  have hwords : ["return string(" ++ receiver name ++ ")"].flatMap tokens =
      ["return", "string", receiver name].map Token.word := by
    rw [List.flatMap_singleton, String.append_assoc,
      tokens_append_word (by decide) (isWord_receiver h) (by decide)]
    rfl
  have hfree : freeWords [receiver name] ["return", "string", receiver name] = ["string"] := by
    rw [freeWords_keyword (by decide),
      freeWords_reserved (receiver_subset_boundNames name) (by decide),
      freeWords_bound (List.mem_singleton_self _)]
    rfl
  have hrefers := refers_plainMethod h ("// String returns the literal value of "
    ++ receiver name ++ ".") (by simp) (m := "String") (t := " string") (by decide) rfl hwords
  rwa [hfree] at hrefers

theorem refers_string_validityDeclaration (h : isIdentifier name = true) (acceptEmpty : Bool)
    {values : List String} (hvalues : ∀ value ∈ values, isIdentifier (constant value) = true) :
    Refers (StringEnum.validityDeclaration name acceptEmpty values)
      [values.map constant ++ ["true", "false"]] := by
  have hcase := tokens_validLabels hvalues acceptEmpty
  have hwords : (switchOn (receiver name)
        [(StringEnum.validLabels acceptEmpty values, ["return true"])]
        ++ ["return false"]).flatMap tokens =
      (["switch", receiver name, "case"] ++ values.map constant
        ++ ["return", "true", "return", "false"]).map Token.word := by
    have hswitch : tokens ("switch " ++ receiver name ++ " \x7b") =
        [.word "switch", .word (receiver name)] := by
      rw [String.append_assoc, tokens_append_word (by decide) (isWord_receiver h) (by decide)]
      rfl
    have htrue : tokens "\treturn true" = [.word "return", .word "true"] := by decide
    have hfalse : tokens "return false" = [.word "return", .word "false"] := by decide
    have hclosing : tokens "\x7d" = [] := by decide
    simp [switchOn, indent, hswitch, hcase, htrue, hfalse, hclosing]
  have hfree : freeWords [receiver name] (["switch", receiver name, "case"] ++ values.map constant
      ++ ["return", "true", "return", "false"]) = values.map constant ++ ["true", "false"] := by
    have hbound := receiver_subset_boundNames name
    rw [freeWords_append, freeWords_append, freeWords_constants hbound,
      freeWords_keyword (by decide), freeWords_bound (List.mem_singleton_self _),
      freeWords_keyword (by decide), freeWords_keyword (by decide),
      freeWords_reserved hbound (by decide), freeWords_keyword (by decide),
      freeWords_reserved hbound (by decide)]
    rfl
  have hrefers := refers_plainMethod h (validityComment name)
    (head?_validityComment name) (m := "IsValid") (t := " bool") (by decide) rfl hwords
  rwa [hfree] at hrefers

theorem refers_integer_stringDeclaration (h : isIdentifier name = true) :
    Refers (IntegerEnum.stringDeclaration name) [["fmt", namesTable name]] := by
  -- The format holds the name of the enumeration, but between quotes.
  have hshown : tokens ("fmt.Sprintf(\"" ++ name ++ "(%d)\", " ++ receiver name ++ ")") =
      ["fmt", receiver name].map Token.word := by
    rw [String.append_assoc, String.append_assoc, String.append_assoc,
      tokens_quoted (by decide) (isWord_of_isIdentifier h).2, ← String.append_assoc,
      tokens_append_word (by decide) (isWord_receiver h) (by decide)]
    rfl
  have hwords : (guardValid (receiver name)
        ("fmt.Sprintf(\"" ++ name ++ "(%d)\", " ++ receiver name ++ ")")
        ++ ["return " ++ IntegerEnum.tableEntry name]).flatMap tokens =
      ["if", receiver name, "return", "fmt", receiver name, "return", namesTable name,
        receiver name].map Token.word := by
    rw [List.flatMap_append, tokens_guardValid h, hshown, List.flatMap_singleton,
      tokens_return (readsAs_tableEntry h)]
    rfl
  have hfree : freeWords [receiver name] ["if", receiver name, "return", "fmt", receiver name,
      "return", namesTable name, receiver name] = ["fmt", namesTable name] := by
    have hbound := receiver_subset_boundNames name
    have hself := List.mem_singleton_self (receiver name)
    rw [freeWords_keyword (by decide), freeWords_bound hself, freeWords_keyword (by decide),
      freeWords_reserved hbound (by decide), freeWords_bound hself, freeWords_keyword (by decide),
      freeWords_derived hbound h (by simp), freeWords_bound hself]
    rfl
  have hrefers := refers_plainMethod h ("// String returns the declared name of "
    ++ receiver name ++ ".") (by simp) (m := "String") (t := " string") (by decide) rfl hwords
  rwa [hfree] at hrefers

theorem refers_integer_validityDeclaration (h : isIdentifier name = true) :
    Refers (IntegerEnum.validityDeclaration name)
      [["uint64", "uint64", "len", namesTable name]] := by
  have hwords : ["return uint64(" ++ receiver name ++ ") < uint64(len(" ++ namesTable name
        ++ "))"].flatMap tokens =
      ["return", "uint64", receiver name, "uint64", "len", namesTable name].map Token.word := by
    rw [List.flatMap_singleton, String.append_assoc, String.append_assoc, String.append_assoc,
      tokens_append_word (by decide) (isWord_receiver h) (endsWord_append (by decide) _),
      tokens_append_word (by decide) (isWord_namesTable h) (by decide)]
    rfl
  have hfree : freeWords [receiver name] ["return", "uint64", receiver name, "uint64", "len",
      namesTable name] = ["uint64", "uint64", "len", namesTable name] := by
    have hbound := receiver_subset_boundNames name
    rw [freeWords_keyword (by decide), freeWords_reserved hbound (by decide),
      freeWords_bound (List.mem_singleton_self _), freeWords_reserved hbound (by decide),
      freeWords_reserved hbound (by decide),
      freeWords_derived hbound h (by simp)]
    rfl
  have hrefers := refers_plainMethod h (validityComment name)
    (head?_validityComment name) (m := "IsValid") (t := " bool") (by decide) rfl hwords
  rwa [hfree] at hrefers

/-- The method that writes a value as text refers to what its error shows and to what the text is
made of. -/
theorem refers_marshalDeclaration (h : isIdentifier name = true) {verb shown text : String}
    (hverb : verb ∈ ["%q", "%d"]) {ws vs : List String} (hshown : ReadsAs shown ws)
    (htext : ReadsAs text vs) :
    Refers (marshalDeclaration name verb shown text)
      [["nil", "fmt", invalidError name] ++ freeWords [receiver name] ws ++ ["byte"]
        ++ freeWords [receiver name] vs ++ ["nil"]] := by
  have hinvalid := tokens_invalidValue h hverb hshown
  have hreturn : tokens ("return []byte(" ++ text ++ "), nil") =
      (["return", "byte"] ++ vs ++ ["nil"]).map Token.word := by
    have hopening : tokens "return []byte(" = [.word "return", .word "byte"] := by decide
    have hclosing : tokens "), nil" = [.word "nil"] := by decide
    rw [String.append_assoc, tokens_append (by decide), htext _ (by decide), hopening, hclosing]
    simp
  have hwords : (guardValid (receiver name) ("nil, " ++ invalidValue name verb shown)
        ++ ["return []byte(" ++ text ++ "), nil"]).flatMap tokens =
      (["if", receiver name, "return", "nil", "fmt", invalidError name] ++ ws
        ++ ["return", "byte"] ++ vs ++ ["nil"]).map Token.word := by
    rw [List.flatMap_append, tokens_guardValid h, hinvalid, List.flatMap_singleton, hreturn]
    simp
  have hfree : freeWords [receiver name]
      (["if", receiver name, "return", "nil", "fmt", invalidError name] ++ ws
        ++ ["return", "byte"] ++ vs ++ ["nil"]) =
      ["nil", "fmt", invalidError name] ++ freeWords [receiver name] ws ++ ["byte"]
        ++ freeWords [receiver name] vs ++ ["nil"] := by
    have hbound := receiver_subset_boundNames name
    have hfront : freeWords [receiver name]
        ["if", receiver name, "return", "nil", "fmt", invalidError name] =
          ["nil", "fmt", invalidError name] := by
      rw [freeWords_keyword (by decide), freeWords_bound (List.mem_singleton_self _),
        freeWords_keyword (by decide), freeWords_reserved hbound (by decide),
        freeWords_reserved hbound (by decide), freeWords_derived hbound h (by simp)]
      rfl
    have hbyte : freeWords [receiver name] ["return", "byte"] = ["byte"] := by
      rw [freeWords_keyword (by decide), freeWords_reserved hbound (by decide)]
      rfl
    have hnil : freeWords [receiver name] ["nil"] = ["nil"] :=
      freeWords_reserved hbound (by decide)
    rw [freeWords_append, freeWords_append, freeWords_append, freeWords_append, hfront, hbyte, hnil]
  have hrefers := refers_plainMethod h
    "// MarshalText implements encoding.TextMarshaler." (by decide)
    (m := "MarshalText") (t := " ([]byte, error)") (by decide) rfl hwords
  rwa [hfree] at hrefers

theorem tokens_unmarshalBody (h : isIdentifier name = true) :
    (["parsed, err := " ++ parseFunction name ++ "(string(text))"]
        ++ block "if err != nil" ["return err"]
        ++ ["*" ++ receiver name ++ " = parsed", "return nil"]).map tokens =
      [[.word "parsed", .word "err", .define, .word (parseFunction name), .word "string",
        .word "text"], [.word "if", .word "err", .word "nil"], [.word "return", .word "err"], [],
        [.word (receiver name), .word "parsed"], [.word "return", .word "nil"]] := by
  have hfirst : tokens ("parsed, err := " ++ parseFunction name ++ "(string(text))") =
      [.word "parsed", .word "err", .define, .word (parseFunction name), .word "string",
        .word "text"] := by
    rw [String.append_assoc, tokens_append_word (by decide) (isWord_parseFunction h) (by decide)]
    rfl
  have hguard : (block "if err != nil" ["return err"]).map tokens =
      [[.word "if", .word "err", .word "nil"], [.word "return", .word "err"], []] := by decide
  have hassign : tokens ("*" ++ receiver name ++ " = parsed") =
      [.word (receiver name), .word "parsed"] := by
    rw [String.append_assoc, tokens_append_word (by decide) (isWord_receiver h) (by decide)]
    rfl
  have hreturn : tokens "return nil" = [.word "return", .word "nil"] := by decide
  simp only [List.map_append, List.map_cons, List.map_nil, hfirst, hguard, hassign, hreturn]
  rfl

/-- The method that reads a value from text binds four names, and takes the function that reads
values from outside. -/
theorem refers_unmarshalDeclaration (h : isIdentifier name = true) :
    Refers (unmarshalDeclaration name) [[parseFunction name, "string", "nil", "nil"]] := by
  have hfree : freeWords (boundNames name) ["parsed", "err", parseFunction name, "string", "text",
      "if", "err", "nil", "return", "err", receiver name, "parsed", "return", "nil"] =
        [parseFunction name, "string", "nil", "nil"] := by
    -- The variables, the parameter and the receiver are bound, and what tests and returns are
    -- keywords.
    have hbound := List.Subset.refl (boundNames name)
    have hlocal : ∀ w ∈ ["text", "parsed", "err"], w ∈ boundNames name := fun _ =>
      List.mem_cons_of_mem _
    rw [freeWords_bound (hlocal _ (by decide)), freeWords_bound (hlocal _ (by decide)),
      freeWords_derived hbound h (by simp), freeWords_reserved hbound (by decide),
      freeWords_bound (hlocal _ (by decide)), freeWords_keyword (by decide),
      freeWords_bound (hlocal _ (by decide)), freeWords_reserved hbound (by decide),
      freeWords_keyword (by decide), freeWords_bound (hlocal _ (by decide)),
      freeWords_bound (s := receiver name) (by simp [boundNames]),
      freeWords_bound (hlocal _ (by decide)), freeWords_keyword (by decide),
      freeWords_reserved hbound (by decide)]
    rfl
  have hbody := tokens_unmarshalBody h
  have hdeclared := congrArg (List.flatMap declaredBy) hbody
  rw [List.flatMap_map] at hdeclared
  have hrefers := refers_method "// UnmarshalText implements encoding.TextUnmarshaler."
    (by decide) (by simp [List.IsPrefix]) (parameters_unmarshal h _) hdeclared
  rw [List.flatMap_def (f := tokens), hbody] at hrefers
  rw [← hfree]
  exact hrefers

theorem refers_backingDeclaration (h : isIdentifier name = true) {backing : String}
    (hbacking : backing ∈ integerTypes) :
    Refers (IntegerEnum.backingDeclaration name backing) [[backing]] := by
  have htype : ∀ b ∈ integerTypes, IsWord b ∧ b ∈ reserved := by decide
  obtain ⟨hword, hreserved⟩ := htype backing hbacking
  have hwords : ["return " ++ backing ++ "(" ++ receiver name ++ ")"].flatMap tokens =
      ["return", backing, receiver name].map Token.word := by
    have hline := tokens_return (readsAs_conversion hword h)
    rw [List.flatMap_singleton, ← hline]
    simp only [String.append_assoc]
  have hfree : freeWords [receiver name] ["return", backing, receiver name] = [backing] := by
    rw [freeWords_keyword (by decide),
      freeWords_reserved (receiver_subset_boundNames name) hreserved,
      freeWords_bound (List.mem_singleton_self _)]
    rfl
  have hsignature : backingMethod backing ++ "() " ++ backing =
      backingMethod backing ++ "(" ++ "" ++ ")" ++ (" " ++ backing) := by
    simp [← String.toList_inj]
  have hrefers := refers_plainMethod h ("// " ++ backingMethod backing
    ++ " returns the underlying " ++ backing ++ " value of " ++ receiver name ++ ".") (by simp)
    ((integerTypes_bindable backing hbacking).2.not_mem rfl) hsignature hwords
  rwa [hfree] at hrefers

/-! ### Functions -/

theorem refers_valuesDeclaration (h : isIdentifier name = true) (values : List String) :
    Refers (valuesDeclaration name values) [] := by
  have hvalues : IsBindable (valuesFunction name) :=
    isBindable_append (isBindable_of_isIdentifier h) (by decide)
  have hcomment : ∀ l ∈ ["// " ++ valuesFunction name ++ " returns every " ++ name
      ++ " value in declaration order."], l.toList.head? ≠ some 'f' := by simp
  exact refers_function hcomment hvalues (t := "() []" ++ name)
    (by simp only [String.append_assoc]) _

theorem refers_parseBlock (h : isIdentifier name = true) (acceptEmpty : Bool)
    (body : List String) :
    Refers (parseComment name acceptEmpty ++ block (parseHeader name) body) [] := by
  have hparse : IsBindable (parseFunction name) :=
    isBindable_append (by decide) (isBindable_of_isIdentifier h)
  have hcomment : ∀ l ∈ parseComment name acceptEmpty, l.toList.head? ≠ some 'f' := by
    cases acceptEmpty <;> simp [parseComment]
  exact refers_function hcomment hparse (t := "(s string) (" ++ name ++ ", error)")
    (by simp only [parseHeader, String.append_assoc]) _

theorem refers_fromDeclaration (h : isIdentifier name = true) {backing : String}
    (hbacking : backing ∈ integerTypes) :
    Refers (IntegerEnum.fromDeclaration name backing) [] := by
  have hmethod := (integerTypes_bindable backing hbacking).2
  have hfrom : IsBindable (fromFunction name backing) :=
    isBindable_append (isBindable_append (isBindable_of_isIdentifier h) (by decide)) hmethod
  have hcomment : ∀ l ∈ ["// " ++ fromFunction name backing ++ " converts v into a " ++ name
      ++ ", rejecting undeclared values."], l.toList.head? ≠ some 'f' := by simp
  exact refers_function hcomment hfrom (t := "(v " ++ backing ++ ") (" ++ name ++ ", error)")
    (by simp only [String.append_assoc]) _

/-! ### Files -/

/-- What the methods of an enumeration take from outside, in the order of the methods in the file
and of the references in each: predeclared words, imports, constants, and names that are made of the
name of the enumeration. -/
def references (name : String) (values : List String) : Kind → List (List String)
  | .string =>
    [["string"],
     values.map constant ++ ["true", "false"],
     ["nil", "fmt", invalidError name, "string", "byte", "nil"],
     [parseFunction name, "string", "nil", "nil"]]
  | .int backing =>
    [["fmt", namesTable name],
     ["uint64", "uint64", "len", namesTable name],
     ["nil", "fmt", invalidError name, "byte", namesTable name, "nil"],
     [parseFunction name, "string", "nil", "nil"]] ++ backing.toList.map ([·])

/-- No section before the constants has a method. -/
theorem refers_preamble (commandLine name backedBy underlying : String) :
    List.Forall₂ Refers (preamble commandLine name backedBy underlying) [[], [], [], []] := by
  have hnone := declares_preamble commandLine name backedBy underlying
  simp only [preamble, List.forall_mem_cons, List.not_mem_nil, false_implies, implies_true,
    and_true] at hnone
  obtain ⟨hmarker, hpackage, himports, htype⟩ := hnone
  exact .cons hmarker.refers (.cons hpackage.refers (.cons himports.refers
    (.cons htype.refers .nil)))

theorem methodReferences_string {values : List String} (h : Compatible name .string values)
    (commandLine : String) (acceptEmpty : Bool) :
    methodReferences
        (fileLines (StringEnum.sections commandLine name acceptEmpty values) ++ [""]) =
      references name values .string := by
  have hname := h.isIdentifier_name
  have hreceiver := isWord_receiver hname
  have hmarshal := refers_marshalDeclaration hname (by decide : "%q" ∈ ["%q", "%d"])
    (readsAs_conversion (by decide : IsWord "string") hname) hreceiver.readsAs
  have hsections : List.Forall₂ Refers
      (StringEnum.sections commandLine name acceptEmpty values) _ :=
    List.rel_append (refers_preamble commandLine name "a string-backed" "string")
      (.cons (declares_constGroup _).refers (.cons (declares_errorDeclaration name _).refers
        (.cons (refers_valuesDeclaration hname values)
          (.cons (refers_string_stringDeclaration hname)
            (.cons (refers_string_validityDeclaration hname acceptEmpty h.identifiers)
              (.cons (refers_parseBlock hname acceptEmpty _)
                (.cons hmarshal (.cons (refers_unmarshalDeclaration hname) .nil))))))))
  have hconversion : freeWords [receiver name] ["string", receiver name] = ["string"] := by
    rw [freeWords_reserved (receiver_subset_boundNames name) (by decide),
      freeWords_bound (List.mem_singleton_self _)]
    rfl
  have hself : freeWords [receiver name] [receiver name] = [] :=
    freeWords_bound (List.mem_singleton_self _)
  rw [methodReferences_fileLines hsections, hconversion, hself]
  simp [references]

theorem methodReferences_integer {backing : Option String} {values : List String}
    (hbacking : (Kind.int backing).IsListed) (h : Compatible name (.int backing) values)
    (commandLine : String) (acceptEmpty : Bool) :
    methodReferences
        (fileLines (IntegerEnum.sections commandLine name backing acceptEmpty values) ++ [""]) =
      references name values (.int backing) := by
  have hname := h.isIdentifier_name
  have hreceiver := isWord_receiver hname
  have hmarshal := refers_marshalDeclaration hname (by decide : "%d" ∈ ["%q", "%d"])
    hreceiver.readsAs (readsAs_tableEntry hname)
  have hconversions : List.Forall₂ Refers (IntegerEnum.conversions name backing)
      (backing.toList.flatMap fun b => [[[b]], []]) := by
    cases backing with
    | none => exact .nil
    | some backing =>
      exact .cons (refers_backingDeclaration hname hbacking)
        (.cons (refers_fromDeclaration hname hbacking) .nil)
  have hsections : List.Forall₂ Refers
      (IntegerEnum.sections commandLine name backing acceptEmpty values) _ :=
    List.rel_append (List.rel_append
      (refers_preamble commandLine name "an integer-backed" (Kind.int backing).goType)
      (.cons (declares_constGroup _).refers (.cons (declares_tableDeclaration name values).refers
        (.cons (declares_errorDeclaration name _).refers
          (.cons (refers_valuesDeclaration hname values)
            (.cons (refers_integer_stringDeclaration hname)
              (.cons (refers_integer_validityDeclaration hname)
                (.cons (refers_parseBlock hname acceptEmpty _)
                  (.cons hmarshal (.cons (refers_unmarshalDeclaration hname) .nil))))))))))
      hconversions
  have hself : freeWords [receiver name] [receiver name] = [] :=
    freeWords_bound (List.mem_singleton_self _)
  have hentry : freeWords [receiver name] [namesTable name, receiver name] = [namesTable name] := by
    rw [freeWords_derived (receiver_subset_boundNames name) hname (by simp), hself]
  rw [methodReferences_fileLines hsections, hself, hentry]
  cases backing <;> simp [references]

/-- All references are to names of the package, predeclared words or imports. -/
theorem mem_of_mem_references {kind : Kind} (hkind : kind.IsListed) (values : List String) :
    ∀ words ∈ references name values kind, ∀ word ∈ words,
      word ∈ declaredNames name kind ∨ word ∈ values.map constant ∨ word ∈ reserved := by
  have hfixed : ∀ word ∈ ["string", "true", "false", "nil", "fmt", "byte", "uint64", "len"],
      word ∈ reserved := by decide
  have hbackings : ∀ backing ∈ integerTypes, backing ∈ reserved := by decide
  simp only [List.forall_mem_cons, List.not_mem_nil, false_implies, implies_true,
    and_true] at hfixed
  match kind with
  | .string => simp +contextual [references, declaredNames, hfixed, or_imp]
  | .int none => simp [references, declaredNames, hfixed]
  | .int (some backing) => simp [references, declaredNames, hfixed, hbackings backing hkind]

end

/-- The receiver differs from the names of the package, from the imports and from what else a method
binds. So the methods take from outside just what they are meant to: every reference to a name of
the package, a predeclared word or an import means this and nothing that a method binds. -/
theorem receiver_capturesNothing {token name : String} {kind : Kind} {values : List String}
    (hkind : Kind.parse token = .ok kind) (hcheck : check name kind values = .ok ()) :
    (receiver name ≠ name ∧ (∀ value ∈ values, receiver name ≠ constant value) ∧
      receiver name ∉ declaredNames name kind ∧ receiver name ∉ imports ∧
      receiver name ∉ ["text", "parsed", "err"]) ∧
    (∀ words ∈ references name values kind, ∀ word ∈ words,
      word ∈ declaredNames name kind ∨ word ∈ values.map constant ∨ word ∈ reserved) ∧
    ∀ commandLine acceptEmpty text,
      Listing.render? ⟨commandLine, ⟨kind, name, values⟩, acceptEmpty⟩ = some text →
        ∃ rest, text = header commandLine ++ "\n" ++ rest ∧
          methodReferences (lines rest) = references name values kind := by
  have hlisted := Kind.isListed_of_parse hkind
  have h := check_eq_ok_iff.mp hcheck
  refine ⟨⟨receiver_ne name, fun value _ => receiver_ne_constant name value,
    receiver_not_mem_declaredNames name kind, ?_, receiver_not_mem_others name⟩,
    mem_of_mem_references hlisted values, ?_⟩
  · intro hmem
    exact receiver_not_mem_reserved name (List.mem_append_right _ hmem)
  · intro commandLine acceptEmpty text hrender
    rw [render?_eq, Option.map_eq_some_iff] at hrender
    obtain ⟨rest, hrest, rfl⟩ := hrender
    refine ⟨rest, rfl, ?_⟩
    -- The command line stands above `rest`, so for the sections it may be any.
    obtain ⟨sections, hsections, hlines⟩ := header_cons_lines hlisted h hrest
    have hmethods : methodReferences (lines rest) =
        methodReferences (fileLines sections ++ [""]) := by
      rw [← hlines]
      rfl
    rw [hmethods]
    cases kind with
    | string =>
      rw [StringEnum.eq_sections_of_sections? hsections]
      exact methodReferences_string h "" acceptEmpty
    | int backing =>
      obtain rfl := Option.some.inj hsections
      exact methodReferences_integer hlisted h "" acceptEmpty

/-- A type that has the name of a parameter of its own method, and values with one letter. -/
theorem receiver_capturesNothing_text : ∃ text rest,
    Listing.render? ⟨"go-enum int:byte text t e", ⟨.int "byte", "text", ["t", "e"]⟩, true⟩ =
      some text ∧
    text = header "go-enum int:byte text t e" ++ "\n" ++ rest ∧
    receiver "text" ∉ declaredNames "text" (.int "byte") ∧
    methodReferences (lines rest) =
      [["fmt", "textNames"], ["uint64", "uint64", "len", "textNames"],
       ["nil", "fmt", "ErrInvalidtext", "byte", "textNames", "nil"],
       ["Parsetext", "string", "nil", "nil"], ["byte"]] := by
  have hkind : Kind.parse "int:byte" = .ok (.int "byte") := by decide
  have hcheck : check "text" (.int "byte") ["t", "e"] = .ok () := by decide
  have hrender : Listing.render?
      ⟨"go-enum int:byte text t e", ⟨.int "byte", "text", ["t", "e"]⟩, true⟩ = some _ := rfl
  obtain ⟨⟨-, -, hreceiver, -⟩, -, hmethods⟩ := receiver_capturesNothing hkind hcheck
  obtain ⟨rest, htext, hreferences⟩ := hmethods _ _ _ hrender
  refine ⟨_, rest, rfl, htext, hreceiver, hreferences.trans ?_⟩
  decide

end GoEnum.Source
