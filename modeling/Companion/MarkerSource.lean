import Companion.Options

/-!
# Declarations of the marker attributes

A project that uses the generated code needs the two attributes in scope. Their source does not
depend on the input, only the line ending is chosen.
-/

namespace Companion.MarkerSource

/-- The identifier under which the source is emitted. -/
def identifier : String := "MakePropertyAttribute"

/-- The lines of the source. -/
def sourceLines : List String := [
    "using System;",
    "",
    "namespace SpeedyGenerators",
    "\x7b",
    "    [AttributeUsage(AttributeTargets.Field, Inherited = false, AllowMultiple = false)]",
    "    sealed class MakePropertyAttribute : Attribute",
    "    \x7b",
    "        public MakePropertyAttribute(string name, bool extraNotify = false, bool compareValues = false)",
    "        \x7b",
    "            Name = name;",
    "            ExtraNotify = extraNotify;",
    "            CompareValues = compareValues;",
    "        \x7d",
    "",
    "        public string Name \x7b get; private set; \x7d",
    "",
    "        public bool ExtraNotify \x7b get; private set; \x7d",
    "",
    "        public bool CompareValues \x7b get; private set; \x7d",
    "    \x7d",
    "",
    "    [AttributeUsage(AttributeTargets.Class | AttributeTargets.Struct, Inherited = false, AllowMultiple = false)]",
    "    sealed class MakeConcreteAttribute : Attribute",
    "    \x7b",
    "        public MakeConcreteAttribute(",
    "            string interfaceFullTypeName,",
    "            bool generateInitializingConstructor = true,",
    "            bool makeSettersPrivate = false,",
    "            bool implementInterface = false,",
    "            bool makeReferenceTypesNullable = false,",
    "            bool makeValueTypesNullable = false)",
    "        \x7b",
    "            InterfaceFullTypeName = interfaceFullTypeName ?? throw new ArgumentNullException(nameof(interfaceFullTypeName));",
    "            GenerateInitializingConstructor = generateInitializingConstructor;",
    "            MakeSettersPrivate = makeSettersPrivate;",
    "            ImplementInterface = implementInterface;",
    "            MakeReferenceTypesNullable = makeReferenceTypesNullable;",
    "            MakeValueTypesNullable = makeValueTypesNullable;",
    "        \x7d",
    "",
    "        public string InterfaceFullTypeName \x7b get; \x7d",
    "",
    "        public bool GenerateInitializingConstructor \x7b get; \x7d",
    "",
    "        public bool MakeSettersPrivate \x7b get; \x7d",
    "",
    "        public bool ImplementInterface \x7b get; \x7d",
    "",
    "        public bool MakeReferenceTypesNullable \x7b get; \x7d",
    "",
    "        public bool MakeValueTypesNullable \x7b get; \x7d",
    "    \x7d",
    "\x7d"]

/-- The source with a line ending behind every line. -/
def text (ending : LineEnding) : String := String.join (sourceLines.map (· ++ ending.text))

end Companion.MarkerSource
