/-!
# The export script

The script that the analyzer runs after its analysis, with a placeholder for the directory that
receives the functions. It is Python for the analyzer's own interpreter and names its files like
`Artifact.fileName`.
-/

namespace FunctionSearch.Export

/-- The lines of the script. -/
def templateLines : List String := [
  "# -*- coding: utf-8 -*-",
  "# Monocle function export, template version 1.",
  "#",
  "# Run by analyzeHeadless as a post-analysis script. Writes the decompiled C of",
  "# every function in the current program to",
  "# <program>__<function>__<epoch seconds>.c under OUTPUT_DIRECTORY.",
  "#@category Monocle",
  "",
  "import os",
  "import re",
  "import time",
  "",
  "from ghidra.app.decompiler import DecompInterface",
  "from ghidra.util.task import ConsoleTaskMonitor",
  "",
  "OUTPUT_DIRECTORY = \x7b\x7bOUTPUT_DIR\x7d\x7d",
  "DISALLOWED = re.compile(r'[^A-Za-z0-9_.\\\\/-]')",
  "DECOMPILE_TIMEOUT_SECS = 60",
  "",
  "",
  "def artifact_name(program_name, function_name):",
  "    name = \"\x7b\x7d__\x7b\x7d__\x7b\x7d.c\".format(program_name, function_name, int(time.time()))",
  "    return DISALLOWED.sub('_', name)",
  "",
  "",
  "def export_functions(program):",
  "    if not os.path.exists(OUTPUT_DIRECTORY):",
  "        os.makedirs(OUTPUT_DIRECTORY)",
  "",
  "    decompiler = DecompInterface()",
  "    decompiler.openProgram(program)",
  "    monitor = ConsoleTaskMonitor()",
  "",
  "    exported = 0",
  "    for function in program.getListing().getFunctions(True):",
  "        result = decompiler.decompileFunction(function, DECOMPILE_TIMEOUT_SECS, monitor)",
  "        decompiled = None",
  "        if result is not None:",
  "            decompiled = result.getDecompiledFunction()",
  "        if decompiled is None:",
  "            print(\"monocle: could not decompile \x7b\x7d\".format(function.getName()))",
  "            continue",
  "",
  "        path = os.path.join(OUTPUT_DIRECTORY, artifact_name(program.getName(), function.getName()))",
  "        with open(path, 'w') as handle:",
  "            handle.write(decompiled.getC().encode('utf-8'))",
  "        exported += 1",
  "",
  "    decompiler.dispose()",
  "    print(\"monocle: exported \x7b\x7d functions\".format(exported))",
  "",
  "",
  "export_functions(currentProgram)"]

/-- The script with its placeholder. -/
def template : List Char :=
  templateLines.flatMap fun line => line.toList ++ ['\n']

/-- What stands for the output directory. -/
def placeholder : List Char :=
  "\x7b\x7bOUTPUT_DIR\x7d\x7d".toList

end FunctionSearch.Export
