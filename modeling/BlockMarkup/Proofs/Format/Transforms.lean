import BlockMarkup.Proofs.Token.Cursor
import BlockMarkup.Proofs.Tree.Layout
import BlockMarkup.Transform

/-!
# Transforms by name

A transform is known if it is listed, fails where the step that it needs fails, and writes a document as the
format of its name does (`Transform.execute_agrees`). Scanning is such a step too: it fails where a match ends
inside a character, as it can under a pattern that is not anchored (`Transform.split_character_fails`).
-/

namespace BlockMarkup

theorem scanSource_error_iff {rules : RuleSet} {source : String} {e : BuildError} :
    scanSource rules source = .error e ↔
      (∃ c, rules.compile = .error c ∧ e = .rules c) ∨
        ∃ compiled, rules.compile = .ok compiled ∧ tokenize compiled source = none ∧
          e = .splitCharacter := by
  unfold scanSource
  cases rules.compile with
  | error c => simp [eq_comm]
  | ok compiled => cases found : tokenize compiled source <;> simp [found, eq_comm]

theorem scanSource_ok_of_compile {rules : RuleSet} {source : String} {compiled : List CompiledRule}
    {tokens : List Token} (compiles : rules.compile = .ok compiled)
    (found : tokenize compiled source = some tokens) : scanSource rules source = .ok tokens := by
  rw [scanSource, compiles]
  dsimp only
  rw [found]

theorem FormatRegistry.standard_entries :
    FormatRegistry.standard.formatters.entries =
      [("json", .json), ("json-compact", .jsonCompact), ("treeviz", .outline)] := rfl

namespace Transform

variable {name : String} {settings : TransformSettings} {rules : RuleSet} {source : String}

/-! ### The two kinds of transforms -/

theorem ofTokens_error_iff {write : List Token → String} {e : TransformError} :
    ofTokens rules source write = .error e ↔ ∃ b, scanSource rules source = .error b ∧ e = .failed b := by
  unfold ofTokens
  cases scanSource rules source <;> simp [eq_comm]

theorem ofTokens_ok {write : List Token → String} {tokens : List Token}
    (scanned : scanSource rules source = .ok tokens) : ofTokens rules source write = .ok (write tokens) := by
  rw [ofTokens, scanned]

theorem ofDocument_error_iff {o : BuildOptions} {write : Document → String} {e : TransformError} :
    (ofDocument o rules source fun d => .ok (write d)) = .error e ↔
      ∃ b, build o rules source = .error b ∧ e = .failed b := by
  unfold ofDocument
  cases build o rules source <;> simp [eq_comm]

theorem ofDocument_ok {o : BuildOptions} {write : Document → String} {d : Document}
    (built : build o rules source = .ok d) :
    (ofDocument o rules source fun d => .ok (write d)) = .ok (write d) := by rw [ofDocument, built]

/-! ### The names -/

theorem available_names :
    available.map (·.1) = ["json", "json-compact", "treeviz", "tokens-json", "tokens-simple"] := rfl

theorem execute_unlisted (unlisted : name ∉ available.map (·.1)) :
    execute name settings rules source = .error (.unknown name) := by
  rw [available_names] at unlisted
  simp only [List.mem_cons, List.not_mem_nil, or_false, not_or] at unlisted
  obtain ⟨json, compact, outline, tokens, simple⟩ := unlisted
  have absent : FormatRegistry.standard.contains name = false := by
    simp [FormatRegistry.contains, FormatRegistry.get?, OrderedMap.get?, FormatRegistry.standard_entries,
      List.lookup_cons, beq_false_of_ne json, beq_false_of_ne compact, beq_false_of_ne outline]
  simp [execute, tokens, simple, outline, absent]

theorem execute_tokens (listed : name ∈ tokenFormats.map (·.1)) :
    ∃ write, (name = "tokens-simple" → write = detokenize) ∧
      ∀ settings rules source, execute name settings rules source = ofTokens rules source write := by
  have names : name = "tokens-json" ∨ name = "tokens-simple" := by simpa [tokenFormats] using listed
  rcases names with rfl | rfl
  · exact ⟨tokensToJson true, nofun, fun _ _ _ => rfl⟩
  · exact ⟨detokenize, fun _ => rfl, fun _ _ _ => rfl⟩

/-- A document is written as the format of the name does it, unless locations are asked for in an outline. -/
theorem execute_document (listed : name ∈ FormatRegistry.standard.descriptions.map (·.1))
    (settings : TransformSettings) :
    ∃ write : Document → String,
      (name ≠ "treeviz" ∨ settings.showLoc = false →
        ∀ d, FormatRegistry.standard.render d name = .ok (write d)) ∧
      ∀ rules source, execute name settings rules source =
        ofDocument settings.options rules source fun d => .ok (write d) := by
  have names : name = "json" ∨ name = "json-compact" ∨ name = "treeviz" := by
    simpa [FormatRegistry.descriptions, FormatRegistry.standard_entries, Formatter.json,
      Formatter.jsonCompact, Formatter.outline] using listed
  rcases names with rfl | rfl | rfl
  · exact ⟨Document.toJson true, fun _ _ => rfl, fun _ _ => rfl⟩
  · exact ⟨Document.toJson false, fun _ _ => rfl, fun _ _ => rfl⟩
  · refine ⟨Outline.renderWith (outlineParams settings), ?_, fun _ _ => rfl⟩
    intro plain d
    have hidden : settings.showLoc = false := plain.resolve_left (not_not_intro rfl)
    rw [outlineParams, hidden]
    rfl

theorem failed_message_ne (b : BuildError) :
    (TransformError.failed b).message ≠ (TransformError.unknown name).message := by
  have failed : (TransformError.failed b).message = "Transform failed: " ++ b.message := rfl
  have unknown : (TransformError.unknown name).message = "Unknown transform: " ++ name := rfl
  have left : "Transform failed: ".toList.head? = some 'T' := rfl
  have right : "Unknown transform: ".toList.head? = some 'U' := rfl
  rw [failed, unknown]
  intro same
  have heads := congrArg (·.toList.head?) same
  simp only [String.toList_append, List.head?_append, left, right, Option.some_or] at heads
  exact absurd (Option.some.inj heads) (by decide)

/-! ### What becomes of a source -/

theorem execute_tokens_fails_iff (listed : name ∈ tokenFormats.map (·.1)) {e : TransformError} :
    execute name settings rules source = .error e ↔
      (∃ c, rules.compile = .error c ∧ e = .failed (.rules c)) ∨
        ∃ compiled, rules.compile = .ok compiled ∧ tokenize compiled source = none ∧
          e = .failed .splitCharacter := by
  obtain ⟨write, -, runs⟩ := execute_tokens listed
  rw [runs, ofTokens_error_iff]
  constructor
  · rintro ⟨b, failed, rfl⟩
    rcases scanSource_error_iff.mp failed with ⟨c, refused, rfl⟩ | ⟨compiled, compiles, inner, rfl⟩
    · exact .inl ⟨c, refused, rfl⟩
    · exact .inr ⟨compiled, compiles, inner, rfl⟩
  · rintro (⟨c, refused, rfl⟩ | ⟨compiled, compiles, inner, rfl⟩)
    · exact ⟨_, scanSource_error_iff.mpr (.inl ⟨c, refused, rfl⟩), rfl⟩
    · exact ⟨_, scanSource_error_iff.mpr (.inr ⟨compiled, compiles, inner, rfl⟩), rfl⟩

theorem execute_document_fails_iff (listed : name ∈ FormatRegistry.standard.descriptions.map (·.1))
    {e : TransformError} :
    execute name settings rules source = .error e ↔
      ∃ b, build settings.options rules source = .error b ∧ e = .failed b := by
  obtain ⟨write, -, runs⟩ := execute_document listed settings
  rw [runs, ofDocument_error_iff]

theorem mem_available : name ∈ available.map (·.1) ↔
    name ∈ FormatRegistry.standard.descriptions.map (·.1) ∨ name ∈ tokenFormats.map (·.1) := by
  rw [available, List.map_append, List.mem_append]

/-- An error tells that the name is unknown exactly if it is not listed, whatever else is given. -/
theorem execute_unknown_iff :
    (∃ e, execute name settings rules source = .error e ∧
      e.message = (TransformError.unknown name).message) ↔ name ∉ available.map (·.1) := by
  constructor
  · rintro ⟨e, failed, message⟩ listed
    rcases mem_available.mp listed with document | tokens
    · obtain ⟨b, -, rfl⟩ := (execute_document_fails_iff document).mp failed
      exact failed_message_ne b message
    · rcases (execute_tokens_fails_iff tokens).mp failed with ⟨c, -, rfl⟩ | ⟨-, -, -, rfl⟩
      · exact failed_message_ne _ message
      · exact failed_message_ne _ message
  · exact fun unlisted => ⟨_, execute_unlisted unlisted, rfl⟩

/-- What a transform of some name does with any rules, source and settings. -/
structure Agrees (name : String) (settings : TransformSettings) (rules : RuleSet) (source : String) : Prop where
  unknown : (∃ e, execute name settings rules source = .error e ∧
    e.message = "Unknown transform: " ++ name) ↔ name ∉ available.map (·.1)
  /-- A transform of tokens fails with the rules, and where a match ends inside a character. -/
  tokens : name ∈ tokenFormats.map (·.1) → ∀ e, execute name settings rules source = .error e ↔
    (∃ c, rules.compile = .error c ∧ e = .failed (.rules c)) ∨
      ∃ compiled, rules.compile = .ok compiled ∧ tokenize compiled source = none ∧
        e = .failed .splitCharacter
  /-- It does not if the rules are anchored or the source is ASCII. -/
  safe : name ∈ tokenFormats.map (·.1) → ∀ compiled, rules.compile = .ok compiled →
    (∀ r ∈ compiled, r.Anchored) ∨ (∀ c ∈ source.toList, c.toNat < 128) →
    ∃ output, execute name settings rules source = .ok output
  document : name ∈ FormatRegistry.standard.descriptions.map (·.1) →
    ∀ e, execute name settings rules source = .error e ↔
      ∃ b, build settings.options rules source = .error b ∧ e = .failed b
  joined : name = "tokens-simple" → ∀ compiled, rules.compile = .ok compiled →
    (∀ r ∈ compiled, r.Anchored) → execute name settings rules source = .ok source
  rendered : name = "json" ∨ name = "json-compact" ∨ name = "treeviz" ∧ settings.showLoc = false →
    ∀ d, build settings.options rules source = .ok d →
      ∃ output, FormatRegistry.standard.render d name = .ok output ∧
        execute name settings rules source = .ok output

theorem execute_ok_of_tokens (listed : name ∈ tokenFormats.map (·.1)) {compiled : List CompiledRule}
    {tokens : List Token} (compiles : rules.compile = .ok compiled)
    (found : tokenize compiled source = some tokens) :
    ∃ output, execute name settings rules source = .ok output ∧
      (name = "tokens-simple" → output = detokenize tokens) := by
  obtain ⟨write, joins, runs⟩ := execute_tokens listed
  refine ⟨write tokens, ?_, fun simple => by rw [joins simple]⟩
  rw [runs]
  exact ofTokens_ok (scanSource_ok_of_compile compiles found)

/-- A transform knows the names that are listed and fails where its steps do. Tokens are joined to the source
again, if the rules are anchored, and a document is written as the registry does. -/
theorem execute_agrees (name : String) (settings : TransformSettings) (rules : RuleSet) (source : String) :
    Agrees name settings rules source where
  unknown := execute_unknown_iff
  tokens := fun listed _ => execute_tokens_fails_iff listed
  safe := by
    intro listed compiled compiles safe
    have scanned : ∃ tokens, tokenize compiled source = some tokens := by
      rcases safe with anchored | ascii
      · obtain ⟨parts, traced, -⟩ := trace_scans anchored source
        exact ⟨_, tokenize_of_trace traced⟩
      · exact tokenize_of_ascii compiled ascii
    obtain ⟨tokens, found⟩ := scanned
    obtain ⟨output, ran, -⟩ := execute_ok_of_tokens listed compiles found
    exact ⟨output, ran⟩
  document := fun listed _ => execute_document_fails_iff listed
  joined := by
    rintro rfl compiled compiles anchored
    obtain ⟨parts, traced, scans⟩ := trace_scans anchored source
    have listed : "tokens-simple" ∈ tokenFormats.map (·.1) := by decide
    obtain ⟨output, ran, joins⟩ := execute_ok_of_tokens listed compiles (tokenize_of_trace traced)
    rw [ran, joins rfl, scans.tiles.partition.joined]
  rendered := by
    intro kind d built
    have listed : name ∈ FormatRegistry.standard.descriptions.map (·.1) := by
      rcases kind with rfl | rfl | ⟨rfl, -⟩ <;> decide
    obtain ⟨write, renders, runs⟩ := execute_document listed settings
    have plain : name ≠ "treeviz" ∨ settings.showLoc = false := by
      rcases kind with rfl | rfl | ⟨-, hidden⟩
      · exact .inl (by decide)
      · exact .inl (by decide)
      · exact .inr hidden
    exact ⟨write d, renders plain d, by rw [runs]; exact ofDocument_ok built⟩

theorem execute_agrees_nested :
    execute "tokens-simple" ⟨{}, false⟩ ⟨sampleRules⟩ "a<xébc" = .ok "a<xébc" ∧
      (∃ e, execute "yaml" ⟨{}, false⟩ ⟨sampleRules⟩ "a<xébc" = .error e ∧
        e.message = "Unknown transform: yaml") ∧
      ∃ d output, build { endOffset := .lastChild } ⟨sampleRules⟩ "a<xébc" = .ok d ∧
        FormatRegistry.standard.render d "treeviz" = .ok output ∧
        execute "treeviz" ⟨{ endOffset := .lastChild }, false⟩ ⟨sampleRules⟩ "a<xébc" = .ok output := by
  obtain ⟨compiled, compiles, anchored, -⟩ := sampleRules_compile
  have unlisted : "yaml" ∉ available.map (·.1) := by decide
  obtain ⟨output, renders, ran⟩ := (execute_agrees "treeviz" ⟨{ endOffset := .lastChild }, false⟩
    ⟨sampleRules⟩ "a<xébc").rendered (.inr (.inr ⟨rfl, rfl⟩)) _ build_nested
  refine ⟨?_, ?_, _, output, build_nested, renders, ran⟩
  · exact (execute_agrees "tokens-simple" ⟨{}, false⟩ ⟨sampleRules⟩ "a<xébc").joined rfl compiled compiles
      anchored
  · exact (execute_agrees "yaml" ⟨{}, false⟩ ⟨sampleRules⟩ "a<xébc").unknown.mpr unlisted

/-- The pattern compiles as an anchored first alternative and a second one without an anchor, whose match in
the source is counted from the start of the first character and ends inside it. -/
theorem split_character_fails :
    ∃ compiled, RuleSet.compile ⟨[("marker", .pattern "a)|(?:b" "")]⟩ = .ok compiled ∧
      execute "tokens-simple" ⟨{}, false⟩ ⟨[("marker", .pattern "a)|(?:b" "")]⟩ "éb" =
        .error (.failed .splitCharacter) :=
  ⟨_, rfl, by decide +kernel⟩

end Transform

end BlockMarkup
