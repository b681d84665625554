import SymbolFootprint.Fixture.Image

/-!
An object file like those of compiled assemblies: symbols of the runtime, of thunks and of the base
library, and any number of generated classes.
-/

namespace SymbolFootprint.Fixture

def commonSymbols : List Symbol :=
  [⟨.function, "mono_aot_GeneratedClasses_init", 32⟩,
    ⟨.object, "mono_aot_file_info", 64⟩,
    ⟨.function, "plt_System_Object__ctor", 16⟩,
    ⟨.function, "temp_thunk_0", 8⟩,
    ⟨.function, "System_Collections_Generic_List_1_Add", 120⟩,
    ⟨.function, "System_Collections_Generic_List_1", 40⟩,
    ⟨.function, "System_Threading_Tasks_Task_Delay", 96⟩]

def classSymbols (number : Nat) : List Symbol :=
  [⟨.function, s!"GeneratedClasses_SomeClass{number}_Calculate", 200 + number⟩,
    ⟨.function, s!"GeneratedClasses_SomeClass{number}_Dispose", 24⟩,
    ⟨.object, s!"GeneratedClasses_DummyStruct{number}_Value", 4⟩]

/-- The file with classes numbered from one to `count`. -/
def generatedClasses (count : Nat) : Fixture :=
  ⟨commonSymbols ++ (List.range count).flatMap fun index => classSymbols (index + 1)⟩

end SymbolFootprint.Fixture
