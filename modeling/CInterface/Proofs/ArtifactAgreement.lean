import CInterface.Artifact
import CInterface.Proofs.JsonText
import CInterface.Proofs.MemberLayout

namespace CInterface

/-!
# Artifacts — agreement

Each artifact determines what it was written from, as far as it shows it: a header its three
blocks, a symbol list and a module of bindings the names of the declarations in their order.  So
two interfaces that agree in one artifact agree in what the others say of the same declarations.

* `SymbolList.names_eq_of_render_eq` — equal symbol lists come from equal names.
* `ModuleStyle.names_eq_of_render_eq` — equal modules come from equal names.
* `Artifact.agreement` — the three statements together, for interfaces read from any two texts.
-/

/-- Linker names determine the C names in front of the runtime functions. -/
theorem SymbolList.names_eq_of_render_eq {s : InterfaceSettings} {i j : Interface}
    (h : SymbolList.render s i = SymbolList.render s j) : i.names = j.names := by
  have hsymbols : SymbolList.symbols s i = SymbolList.symbols s j := Json.renderArray_injective h
  -- The runtime functions end both lists and are the same, so they cancel.
  have hinj : Function.Injective (List.map (s.linkerPrefix ++ ·)) :=
    List.map_injective_iff.2 fun a b hab => List.append_cancel_left hab
  exact List.append_cancel_right (hinj hsymbols)

/-- The names are read off the members, which two equal modules share. -/
theorem ModuleStyle.names_eq_of_render_eq {s : ModuleStyle} (haliases : s.constAliases.OneLine)
    {i j : Interface} (hi : i.Legible) (hj : j.Legible) {types : Text}
    (h : s.render i types = s.render j types) : i.names = j.names := by
  rw [← s.namesOfText_members haliases hi, ← s.namesOfText_members haliases hj,
    ModuleStyle.members_eq_of_render_eq h]

/-- Symbol list and module of bindings depend on the declarations only. -/
theorem Artifact.render_congr {i j : Interface} (h : i.declarations = j.declarations)
    (s : Settings) (asyncify : Bool) (types : Text) :
    symbols.render i s asyncify types = symbols.render j s asyncify types ∧
      ffi.render i s asyncify types = ffi.render j s asyncify types := by
  constructor
  · show SymbolList.render s.interface i = SymbolList.render s.interface j
    rw [SymbolList.render, SymbolList.render, SymbolList.symbols, SymbolList.symbols,
      Interface.names, Interface.names, h]
  · show (s.ffi.style asyncify).render i types = (s.ffi.style asyncify).render j types
    rw [ModuleStyle.render_eq, ModuleStyle.render_eq, ModuleStyle.members, ModuleStyle.members,
      ModuleStyle.bindings, ModuleStyle.bindings, h]

/-- **The artifacts agree.**  Take the interfaces of any two texts, read under any options, and
    write their artifacts with the same settings, whose aliased types hold no line feed.  If the
    headers are equal, so are include lines, typedef lines and declarations, and with them the
    other two artifacts.  If the symbol lists are equal, or the modules of bindings are, then the
    names of the declarations are equal, in order. -/
theorem Artifact.agreement (o₁ o₂ : ReaderOptions) (content₁ content₂ : Text) (s : Settings)
    (asyncify : Bool) (types : Text) (haliases : ∀ e ∈ s.ffi.constAliases.entries, '\n' ∉ e.2) :
    (header.render (Interface.read o₁ content₁) s asyncify types
          = header.render (Interface.read o₂ content₂) s asyncify types →
        (Interface.read o₁ content₁).includes = (Interface.read o₂ content₂).includes ∧
        (Interface.read o₁ content₁).typedefs = (Interface.read o₂ content₂).typedefs ∧
        (Interface.read o₁ content₁).declarations = (Interface.read o₂ content₂).declarations ∧
        symbols.render (Interface.read o₁ content₁) s asyncify types
          = symbols.render (Interface.read o₂ content₂) s asyncify types ∧
        ffi.render (Interface.read o₁ content₁) s asyncify types
          = ffi.render (Interface.read o₂ content₂) s asyncify types) ∧
      (symbols.render (Interface.read o₁ content₁) s asyncify types
          = symbols.render (Interface.read o₂ content₂) s asyncify types →
        (Interface.read o₁ content₁).names = (Interface.read o₂ content₂).names) ∧
      (ffi.render (Interface.read o₁ content₁) s asyncify types
          = ffi.render (Interface.read o₂ content₂) s asyncify types →
        (Interface.read o₁ content₁).names = (Interface.read o₂ content₂).names) := by
  have h₁ := Interface.legible_read o₁ content₁
  have h₂ := Interface.legible_read o₂ content₂
  refine ⟨fun h => ?_, fun h => ?_, fun h => ?_⟩
  · obtain ⟨hincludes, htypedefs, hdecls⟩ := Header.render_inj h₁ h₂ h
    exact ⟨hincludes, htypedefs, hdecls, Artifact.render_congr hdecls s asyncify types⟩
  · exact SymbolList.names_eq_of_render_eq h
  · have hstyle : (s.ffi.style asyncify).constAliases.OneLine := haliases
    exact ModuleStyle.names_eq_of_render_eq hstyle h₁ h₂ h

/-- A definition and the prototype of the same function, the latter read as a declaration, have
    one header and therefore one module of bindings. -/
theorem Artifact.agreement_definition_prototype :
    (∀ e ∈ ({} : Settings).ffi.constAliases.entries, '\n' ∉ e.2) ∧
      ffi.render (Interface.read {} "char *QTS_Echo(JSValueConst *v) \x7b\n".toList) {} false
          "type JSValueConstPointer = number".toList
        = ffi.render
            (Interface.read { prototypes := true } "char *QTS_Echo(JSValueConst *v);".toList) {}
            false "type JSValueConstPointer = number".toList :=
  ⟨by decide, ((Artifact.agreement {} { prototypes := true } _ _ {} false _ (by decide)).1
    (by decide)).2.2.2.2⟩

end CInterface
