import ProxyTunnel.Program.CommandLine

/-!
# Completions

Lines by which a shell learns the names of the commands.
-/

namespace ProxyTunnel.Shell

/-- The line for a shell. -/
def script : Shell → String
  | .bash => "complete -W 'version completions connect help' tunelo-client\n"
  | .elvish =>
    "set edit:completion:arg-completer[tunelo-client] = \x7b|@words| " ++
      "put version completions connect help \x7d\n"
  | .fish => "complete -c tunelo-client -f -a 'version completions connect help'\n"
  | .powershell =>
    "Register-ArgumentCompleter -Native -CommandName tunelo-client -ScriptBlock \x7b " ++
      "param($word) 'version', 'completions', 'connect', 'help' | " ++
      "Where-Object \x7b $_ -like \"$word*\" \x7d \x7d\n"
  | .zsh => "compctl -k '(version completions connect help)' tunelo-client\n"

end ProxyTunnel.Shell
